import Mathlib.Algebra.Group.Nat.Defs
import ProxyAutoConfig.Proofs.Text.Ascii
import ProxyAutoConfig.Proofs.Text.Digits
import ProxyAutoConfig.Proofs.Text.Percent

/-!
# Decimal numbers as they are spelled

A text is read as a number below two to the thirty-two when it is made of decimal digits that spell such a
number, with or without one plus sign in front (`word?_eq_some_iff`). Zeros in front count for nothing, and
there has to be a digit.
-/

namespace ProxyAutoConfig.Text

/-- A decimal digit has its place in ASCII for a value. -/
theorem digitIn?_ten (c : Char) :
    digitIn? 10 c = if c.isDigit then some (c.toNat - '0'.toNat) else none := by
  by_cases ascii : c.toNat < 0x80
  · exact of_ascii (P := fun c => digitIn? 10 c = if c.isDigit then some (c.toNat - '0'.toNat) else none)
      (by decide) ascii
  · have digit : c.isDigit = false := Bool.eq_false_iff.mpr fun digit =>
      ascii (ascii_of_isAlphanum (Bool.or_eq_true_iff.mpr (.inr digit)))
    have value : Percent.hexValue? c = none := Option.not_isSome_iff_eq_none.mp fun value =>
      ascii (Percent.ascii_of_hexValue? value)
    rw [digit, digitIn?, value]
    rfl

/-- **The number that digits spell.** -/
theorem numberFrom?_ten_eq_some_iff {cs : List Char} {done n : Nat} :
    numberFrom? 10 done cs = some n ↔
      (∀ c ∈ cs, c.isDigit = true) ∧ Nat.ofDigitChars 10 cs done = n := by
  induction cs generalizing done with
  | nil => exact (Option.some_inj).trans (and_iff_right (List.forall_mem_nil _)).symm
  | cons c cs ih =>
    rw [numberFrom?, digitIn?_ten, List.forall_mem_cons]
    cases digit : c.isDigit with
    | true =>
      have step : Nat.ofDigitChars 10 (c :: cs) done =
          Nat.ofDigitChars 10 cs (done * 10 + (c.toNat - '0'.toNat)) := by
        rw [Nat.mul_comm]
        rfl
      simp only [if_true, ih, step, true_and]
    | false =>
      simp only [Bool.false_eq_true, if_false, reduceCtorEq, false_and]

/-- **A number of thirty-two bits**, in decimal digits and perhaps with a plus sign in front. -/
structure SpellsWord (cs : List Char) (n : Nat) : Prop where
  spelled : ∃ digits, (cs = digits ∨ cs = '+' :: digits) ∧ digits ≠ [] ∧
    (∀ c ∈ digits, c.isDigit = true) ∧ Nat.ofDigitChars 10 digits 0 = n
  small : n < 2 ^ 32

/-- Nothing but digits and the sign is part of a number. -/
theorem SpellsWord.digit_of_mem {cs : List Char} {n : Nat} (spelled : SpellsWord cs n) {c : Char}
    (mem : c ∈ cs) : c = '+' ∨ c.isDigit = true := by
  obtain ⟨digits, rfl | rfl, _, each, _⟩ := spelled.spelled
  · exact .inr (each c mem)
  · exact (List.mem_cons.mp mem).imp id (each c)

/-- Digits are read as what they spell. -/
theorem decimal?_eq_some_iff {cs : List Char} {n : Nat} :
    decimal? cs = some n ↔
      cs ≠ [] ∧ (∀ c ∈ cs, c.isDigit = true) ∧ Nat.ofDigitChars 10 cs 0 = n := by
  rw [decimal?, number?, ← numberFrom?_ten_eq_some_iff]
  cases cs with
  | nil => exact iff_of_false (by simp) fun some' => some'.1 rfl
  | cons c cs => exact (and_iff_right (List.cons_ne_nil c cs)).symm

/-- **What is read as a word.** -/
theorem word?_eq_some_iff {cs : List Char} {n : Nat} : word? cs = some n ↔ SpellsWord cs n := by
  have read : word? cs = some n ↔
      decimal? (if cs.head? = some '+' then cs.drop 1 else cs) = some n ∧ n < 2 ^ 32 := by
    rw [word?]
    split
    next m value =>
      rw [value, Option.some_inj]
      split
      next small => exact Option.some_inj.trans (iff_self_and.mpr fun same => same ▸ small)
      next large => exact iff_of_false nofun fun both => large (both.1 ▸ both.2)
    next none' =>
      rw [none']
      exact iff_of_false nofun fun both => nomatch both.1
  rw [read, decimal?_eq_some_iff]
  constructor
  · rintro ⟨⟨some', digits, value⟩, small⟩
    refine ⟨⟨_, ?_, some', digits, value⟩, small⟩
    split
    next plus =>
      right
      obtain ⟨rest, rfl⟩ := List.head?_eq_some_iff.mp plus
      rfl
    next => exact .inl rfl
  · rintro ⟨⟨digits, rfl | rfl, some', each, value⟩, small⟩
    · have unsigned : ¬ cs.head? = some '+' := fun plus =>
        absurd (each _ (List.mem_of_mem_head? plus)) (by decide)
      rw [if_neg unsigned]
      exact ⟨⟨some', each, value⟩, small⟩
    · exact ⟨⟨some', each, value⟩, small⟩

end ProxyAutoConfig.Text
