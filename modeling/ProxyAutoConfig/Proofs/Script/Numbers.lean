import Mathlib.Data.List.TakeWhile
import Mathlib.Data.Nat.Digits.Defs
import ProxyAutoConfig.Proofs.Text.Ascii
import ProxyAutoConfig.Proofs.Text.Cut
import ProxyAutoConfig.Proofs.Text.Digits
import ProxyAutoConfig.Script.Number

/-!
# Numbers that are written in digits, and their bits

A few decimal digits spell the integer that they spell everywhere (`Number.ofText_digits`): no mark of
another base can stand among them, and they are not so many that the number would be rounded. Bits that
have become a number are the same bits again (`Number.toBits_ofBits`).
-/

namespace ProxyAutoConfig.Script.Number

open ProxyAutoConfig.Text

/-! ## Bits -/

@[simp] theorem toBits_ofBits (b : BitVec 32) : (ofBits b).toBits = b :=
  BitVec.ofInt_toInt

/-- **Bits are the same where their numbers are equal.** -/
theorem equal_ofBits (a b : BitVec 32) : (ofBits a).equal (ofBits b) = (a == b) := by
  rw [ofBits, ofBits, equal, Bool.eq_iff_iff, beq_iff_eq, beq_iff_eq, BitVec.toInt_inj]

/-! ## Digits -/

/-- What holds for the digits is settled by looking at all of them. -/
theorem of_isDigit {P : Char → Prop}
    (each : ∀ n < 0x80, (Char.ofNat n).isDigit = true → P (Char.ofNat n)) {c : Char}
    (digit : c.isDigit = true) : P c :=
  of_ascii (P := fun c => c.isDigit = true → P c) each
    (ascii_of_isAlphanum (Bool.or_eq_true_iff.mpr (.inr digit))) digit

/-- A digit has a value in base ten. -/
theorem exists_digitIn? {c : Char} (digit : c.isDigit = true) : ∃ d < 10, digitIn? 10 c = some d :=
  of_isDigit (P := fun c => ∃ d < 10, digitIn? 10 c = some d) (by decide) digit

/-- **Digits spell a number**, which is no greater than their count allows. -/
theorem exists_numberFrom? {cs : List Char} (digits : ∀ c ∈ cs, c.isDigit = true) (done : Nat) :
    ∃ n, numberFrom? 10 done cs = some n ∧ n < (done + 1) * 10 ^ cs.length := by
  induction cs generalizing done with
  | nil => exact ⟨done, rfl, by simp⟩
  | cons c cs ih =>
    obtain ⟨digit, digits⟩ := List.forall_mem_cons.mp digits
    obtain ⟨d, small, value⟩ := exists_digitIn? digit
    obtain ⟨n, read, bound⟩ := ih digits (done * 10 + d)
    refine ⟨n, by rw [numberFrom?, value]; exact read, Nat.lt_of_lt_of_le bound ?_⟩
    calc (done * 10 + d + 1) * 10 ^ cs.length
      _ ≤ (done + 1) * 10 * 10 ^ cs.length := Nat.mul_le_mul_right _ (by omega)
      _ = (done + 1) * 10 ^ (cs.length + 1) := by rw [Nat.pow_succ', Nat.mul_assoc]

variable {cs : List Char}

/-- Digits are read up to their end. -/
theorem takeDigits_eq (digits : ∀ c ∈ cs, c.isDigit = true) : takeDigits cs = (cs, []) := by
  rw [takeDigits, List.takeWhile_eq_self_iff.mpr digits, List.dropWhile_eq_nil_iff.mpr digits]

/-- Among digits there is no mark of another base. -/
theorem readMarked?_eq_none (digits : ∀ c ∈ cs, c.isDigit = true) : readMarked? cs = none := by
  unfold readMarked?
  split
  next m rest =>
    obtain ⟨_, digits⟩ := List.forall_mem_cons.mp digits
    obtain ⟨mark, _⟩ := List.forall_mem_cons.mp digits
    have base : ((m == 'x' || m == 'X') = false ∧ (m == 'o' || m == 'O') = false) ∧
        (m == 'b' || m == 'B') = false :=
      of_isDigit (P := fun m => ((m == 'x' || m == 'X') = false ∧ (m == 'o' || m == 'O') = false) ∧
        (m == 'b' || m == 'B') = false) (by decide) mark
    simp only [base.1.1, base.1.2, base.2, Bool.false_eq_true, if_false]
    cases rest with
    | nil => rfl
    | cons c rest =>
      have none' : digitIn? 0 c = none := by
        unfold digitIn?
        split
        · exact if_neg (Nat.not_lt_zero _)
        · rfl
      simp only [number?, List.isEmpty_cons, Bool.false_eq_true, if_false, numberFrom?, none',
        Option.map_none]
  next => rfl

/-- No blanks stand around digits. -/
theorem trimBlanks_eq (digits : ∀ c ∈ cs, c.isDigit = true) : trimBlanks cs = cs :=
  reverse_dropWhile_eq_self_of_free fun c mem =>
    of_isDigit (P := fun c => isScriptBlank c = false) (by decide) (digits c mem)

/-- A small integer that is written without an exponent. -/
theorem ofDecimal_zero {n : Nat} (small : n < 10 ^ 15) : ofDecimal n 0 = int n := by
  unfold ofDecimal
  split
  next zero => rw [zero]; rfl
  next =>
    have length : (decimal n).length ≤ 15 := Nat.toDigits_length 10 n 15 (by decide) small
    have low : ¬ (400 : Int) < (decimal n).length + 0 := by omega
    have high : ¬ ((decimal n).length : Int) + 0 < -400 := by omega
    simp only [low, high, if_false, if_true]
    rw [if_pos (Nat.le_trans (Nat.le_of_lt small) (by decide))]

/-- **A few digits spell their number.** -/
theorem ofText_digits {n : Nat} (some' : cs ≠ []) (short : cs.length ≤ 15)
    (digits : ∀ c ∈ cs, c.isDigit = true) (value : numberFrom? 10 0 cs = some n) :
    ofText cs = int n := by
  have small : n < 10 ^ 15 := by
    obtain ⟨k, read, bound⟩ := exists_numberFrom? digits 0
    obtain rfl : n = k := Option.some.inj (value.symm.trans read)
    rw [Nat.zero_add, Nat.one_mul] at bound
    exact Nat.lt_of_lt_of_le bound (Nat.pow_le_pow_right (by decide) short)
  have nonempty : cs.isEmpty = false := List.isEmpty_eq_false_iff.mpr some'
  have read : readDecimal? cs = some (int n, []) := by
    simp only [readDecimal?, takeDigits_eq digits, readExponent, nonempty, Bool.false_and,
      Bool.false_eq_true, if_false, List.append_nil, digitsValue, value, Option.getD_some,
      List.length_nil, Int.natCast_zero, Int.sub_zero, ofDecimal_zero small]
  obtain ⟨c, rest, rfl⟩ := List.exists_cons_of_ne_nil some'
  have first := digits c List.mem_cons_self
  have sign : (c ≠ '+' ∧ c ≠ '-') ∧ c ≠ 'I' :=
    of_isDigit (P := fun c => (c ≠ '+' ∧ c ≠ '-') ∧ c ≠ 'I') (by decide) first
  have unsigned : ofUnsigned? (c :: rest) = some (int n) := by
    have finite : c :: rest ≠ "Infinity".toList := fun same => sign.2 (List.cons.inj same).1
    rw [ofUnsigned?, if_neg finite, read]
  unfold ofText
  rw [trimBlanks_eq digits]
  split
  next same => cases same
  next same => exact absurd (List.cons.inj same).1 sign.1.1
  next same => exact absurd (List.cons.inj same).1 sign.1.2
  next => rw [readMarked?_eq_none digits, Option.none_or, unsigned, Option.getD_some]

end ProxyAutoConfig.Script.Number
