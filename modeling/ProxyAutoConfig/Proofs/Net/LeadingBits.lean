import Mathlib.Algebra.Group.Nat.Defs
import ProxyAutoConfig.Net.Address

/-!
# Leading bits

A mask clears the bits of an address behind its leading ones, so that two addresses are the same under
it when they are the same after division by a power of two (`Network.agree_iff`). The power has a place
in every word, and the ones that the mask is made of are never shifted too far (`Network.agree?_eq`).

It follows that a network holds the addresses of its family with the same leading bits
(`Network.holds_iff`), that a shorter network of the same address holds no fewer of them, and that the
networks of one length fall into classes.
-/

namespace ProxyAutoConfig.Net

namespace Network

/-! ## Masks -/

section

variable {width : Nat}

/-- **A mask keeps the leading bits** and clears the others. -/
theorem toNat_and_mask (length : Nat) (a : BitVec width) :
    (a &&& mask width length).toNat =
      a.toNat / 2 ^ (width - length) * 2 ^ (width - length) := by
  have small : a.toNat / 2 ^ (width - length) * 2 ^ (width - length) < 2 ^ width :=
    Nat.lt_of_le_of_lt (Nat.div_mul_le_self _ _) a.isLt
  rw [mask, ← BitVec.shiftLeft_ushiftRight, BitVec.toNat_shiftLeft, BitVec.toNat_ushiftRight,
    Nat.shiftRight_eq_div_pow, Nat.shiftLeft_eq, Nat.mod_eq_of_lt small]

/-- **Addresses agree in their leading bits** when they are the same after division. -/
theorem agree_iff {length : Nat} {a b : BitVec width} :
    agree length a b = true ↔ length ≤ width ∧
      a.toNat / 2 ^ (width - length) = b.toNat / 2 ^ (width - length) := by
  rw [agree, Bool.and_eq_true, decide_eq_true_iff, beq_iff_eq, ← BitVec.toNat_inj, toNat_and_mask,
    toNat_and_mask, Nat.mul_right_cancel_iff (Nat.two_pow_pos _)]

/-! ## Masks in words -/

/-- A difference, where it does not fall below zero. -/
def difference? (m n : Nat) : Option Nat :=
  if n ≤ m then some (m - n) else none

/-- A shift, where it is by fewer places than the word has. -/
def shift? (bits : BitVec width) (places : Nat) : Option (BitVec width) :=
  if places < width then some (bits <<< places) else none

/-- **The comparison of leading bits, step by step**: a length that does not fit is refused first, the
number of places is a difference that could fall below zero, and where the ones cannot be shifted by it
the mask has none. -/
def agree? (length : Nat) (a b : BitVec width) : Option Bool :=
  if length ≤ width then
    (difference? width length).map fun places =>
      let ones := (shift? (BitVec.allOnes width) places).getD 0
      a &&& ones == b &&& ones
  else some false

/-- **No step overflows**, whatever the length is. -/
theorem agree?_eq (length : Nat) (a b : BitVec width) : agree? length a b = some (agree length a b) := by
  by_cases fits : length ≤ width
  · have ones : (shift? (BitVec.allOnes width) (width - length)).getD 0 = mask width length := by
      by_cases far : width - length < width
      · rw [shift?, if_pos far, mask, Option.getD_some]
      · rw [shift?, if_neg far, mask, Option.getD_none, BitVec.shiftLeft_eq_zero (Nat.le_of_not_lt far)]
        rfl
    rw [agree?, if_pos fits, difference?, if_pos fits, Option.map_some, agree, decide_eq_true fits,
      Bool.true_and]
    simp only [ones]
  · rw [agree?, if_neg fits, agree, decide_eq_false fits, Bool.false_and]

end

end Network

/-! ## Addresses of both families -/

namespace Address

/-- The number of bits of an address. -/
def width : Address → Nat
  | v4 _ => 32
  | v6 _ => 128

/-- The number that the bits of an address make up. -/
def number : Address → Nat
  | v4 bits | v6 bits => bits.toNat

/-- Addresses of one family have as many bits. -/
theorem width_eq {a b : Address} (family : a.isV4 = b.isV4) : a.width = b.width := by
  cases a <;> cases b <;> first | rfl | cases family

end Address

namespace Network

/-- **A network holds the addresses of its family with its leading bits.** -/
theorem holds_iff {base a : Address} {length : Nat} :
    holds ⟨base, length⟩ a = true ↔ base.isV4 = a.isV4 ∧ length ≤ a.width ∧
      a.number / 2 ^ (a.width - length) = base.number / 2 ^ (a.width - length) := by
  cases base with
  | v4 base =>
    cases a with
    | v4 bits => exact agree_iff.trans (and_iff_right rfl).symm
    | v6 bits => exact iff_of_false Bool.false_ne_true fun same => Bool.noConfusion same.1
  | v6 base =>
    cases a with
    | v4 bits => exact iff_of_false Bool.false_ne_true fun same => Bool.noConfusion same.1
    | v6 bits => exact agree_iff.trans (and_iff_right rfl).symm

section

variable {a b c : Address} {length : Nat}

/-- A network holds its own address, where it is no longer than that. -/
theorem holds_self (fits : length ≤ a.width) : holds ⟨a, length⟩ a = true :=
  holds_iff.mpr ⟨rfl, fits, rfl⟩

/-- Of two addresses each is in the network of the other one, or neither is. -/
theorem holds_symm (holds' : holds ⟨b, length⟩ a = true) : holds ⟨a, length⟩ b = true := by
  obtain ⟨family, fits, leading⟩ := holds_iff.mp holds'
  rw [Address.width_eq family.symm] at fits leading
  exact holds_iff.mpr ⟨family.symm, fits, leading.symm⟩

/-- What is in the network of an address is in every network of that length that holds the address. -/
theorem holds_trans (first : holds ⟨b, length⟩ a = true) (second : holds ⟨c, length⟩ b = true) :
    holds ⟨c, length⟩ a = true := by
  obtain ⟨family, fits, leading⟩ := holds_iff.mp first
  obtain ⟨family', _, leading'⟩ := holds_iff.mp second
  rw [Address.width_eq family] at leading'
  exact holds_iff.mpr ⟨family'.trans family, fits, leading.trans leading'⟩

/-- **A shorter network holds no fewer addresses**: its leading bits are the first ones of the others. -/
theorem holds_of_le {shorter : Nat} (le : shorter ≤ length) (holds' : holds ⟨b, length⟩ a = true) :
    holds ⟨b, shorter⟩ a = true := by
  obtain ⟨family, fits, leading⟩ := holds_iff.mp holds'
  have places : a.width - shorter = (a.width - length) + (length - shorter) := by omega
  refine holds_iff.mpr ⟨family, Nat.le_trans le fits, ?_⟩
  rw [places, Nat.pow_add, ← Nat.div_div_eq_div_mul, ← Nat.div_div_eq_div_mul, leading]

end

end Network

end ProxyAutoConfig.Net
