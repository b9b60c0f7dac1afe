import ProxyAutoConfig.Text.Number

/-!
# Numbers and their digits

A number that is written in digits is read back as itself, in every base up to sixteen. So two
numbers with the same digits are the same, and a number can stand in a text between other
characters without a doubt about where it ends.
-/

namespace ProxyAutoConfig.Text

/-- A written digit is read as its value. -/
theorem digitIn?_digitChar {base d : Nat} (small : base ≤ 16) (hd : d < base) :
    digitIn? base (Nat.digitChar d) = some d := by
  have value : Percent.hexValue? (Nat.digitChar d) = some d :=
    (by decide : ∀ d < 16, Percent.hexValue? (Nat.digitChar d) = some d) d (by omega)
  simp only [digitIn?, value, if_pos hd]

/-- Digits are read one part after the other. -/
theorem numberFrom?_append {base done n : Nat} {front back : List Char}
    (h : numberFrom? base done front = some n) :
    numberFrom? base done (front ++ back) = numberFrom? base n back := by
  induction front generalizing done with
  | nil => rw [Option.some.inj h, List.nil_append]
  | cons c cs ih =>
    rw [List.cons_append, numberFrom?]
    rw [numberFrom?] at h
    cases hc : digitIn? base c with
    | none => rw [hc] at h; cases h
    | some d => rw [hc] at h; exact ih h

/-- A number is spelled by digits alone. -/
theorem isSome_of_numberFrom? {base done n : Nat} {cs : List Char}
    (read : numberFrom? base done cs = some n) : ∀ c ∈ cs, (Percent.hexValue? c).isSome = true := by
  induction cs generalizing done with
  | nil => exact List.forall_mem_nil _
  | cons c cs ih =>
    rw [numberFrom?] at read
    split at read
    · next d digit =>
      refine List.forall_mem_cons.mpr ⟨?_, ih read⟩
      rw [digitIn?] at digit
      split at digit
      · next value => rw [value]; rfl
      · cases digit
    · cases read

/-- So no number is spelled with another character. -/
theorem number?_eq_none {base : Nat} {c : Char} {cs : List Char}
    (digit : Percent.hexValue? c = none) (mem : c ∈ cs) : number? base cs = none := by
  rw [Option.eq_none_iff_forall_ne_some]
  intro n read
  rw [number?] at read
  split at read
  · cases read
  · have known := isSome_of_numberFrom? read c mem
    rw [digit] at known
    cases known

/-- **The digits of a number spell the number.** -/
theorem numberFrom?_toDigits {base : Nat} (large : 1 < base) (small : base ≤ 16) (n : Nat) :
    numberFrom? base 0 (Nat.toDigits base n) = some n := by
  induction n using Nat.strongRecOn with
  | ind n ih =>
    rw [Nat.toDigits_eq_if large]
    split
    · next lt =>
      simp only [numberFrom?, digitIn?_digitChar small lt, Nat.zero_mul, Nat.zero_add]
    · next ge =>
      have less : n / base < n := Nat.div_lt_self (by omega) large
      rw [numberFrom?_append (ih _ less)]
      simp only [numberFrom?, digitIn?_digitChar small (Nat.mod_lt n (by omega)),
        Nat.div_add_mod' n base]

/-- Decimal digits spell one number. -/
theorem decimal?_toDigits (n : Nat) : decimal? (Nat.toDigits 10 n) = some n := by
  have nonempty : (Nat.toDigits 10 n).isEmpty = false :=
    List.isEmpty_eq_false_iff.mpr Nat.toDigits_ne_nil
  simp only [decimal?, number?, nonempty, Bool.false_eq_true, if_false,
    numberFrom?_toDigits (by decide : 1 < 10) (by decide : 10 ≤ 16)]

/-- Different numbers have different digits. -/
theorem toDigits_injective {m n : Nat} (h : Nat.toDigits 10 m = Nat.toDigits 10 n) : m = n := by
  have read := decimal?_toDigits m
  rw [h, decimal?_toDigits n] at read
  exact (Option.some.inj read).symm

/-- A positive number is written without a zero in front. -/
theorem exists_cons_toDigits {n : Nat} (positive : 0 < n) :
    ∃ c cs, Nat.toDigits 10 n = c :: cs ∧ c ≠ '0' := by
  induction n using Nat.strongRecOn with
  | ind n ih =>
    rw [Nat.toDigits_eq_if (by decide)]
    split
    · next lt =>
      refine ⟨_, [], rfl, ?_⟩
      exact (by decide : ∀ d < 10, 0 < d → Nat.digitChar d ≠ '0') n lt positive
    · next ge =>
      obtain ⟨c, cs, digits, leading⟩ := ih (n / 10) (by omega) (by omega)
      exact ⟨c, cs ++ [(n % 10).digitChar], by rw [digits, List.cons_append], leading⟩

/-- What stands among the digits of a number is a digit of the base. -/
theorem exists_digitChar_of_mem {base n : Nat} (large : 1 < base) {c : Char}
    (mem : c ∈ Nat.toDigits base n) : ∃ d < base, c = Nat.digitChar d := by
  induction n using Nat.strongRecOn with
  | ind n ih =>
    rw [Nat.toDigits_eq_if large] at mem
    split at mem
    · next lt => exact ⟨n, lt, List.mem_singleton.mp mem⟩
    · next ge =>
      rcases List.mem_append.mp mem with front | last
      · exact ih (n / base) (Nat.div_lt_self (by omega) large) front
      · exact ⟨n % base, Nat.mod_lt n (by omega), List.mem_singleton.mp last⟩

end ProxyAutoConfig.Text
