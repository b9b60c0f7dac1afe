import Mathlib.Data.Bool.AllAny
import ProxyAutoConfig.Text.Utf8

/-!
# ASCII

The first hundred and twenty-eight characters. What holds for each of them is settled by looking
at all of them. Names of hosts are mostly made of the small letters and the digits among them, the
plain characters, which mean nothing in a URL and stay as they are wherever they stand.
-/

namespace ProxyAutoConfig.Text

variable {c : Char}

/-- Whether something holds throughout ASCII can be found out character by character. -/
theorem of_ascii {P : Char → Prop} (each : ∀ n < 0x80, P (Char.ofNat n)) (ascii : c.toNat < 0x80) :
    P c := by
  have holds := each c.toNat ascii
  rwa [Char.ofNat_toNat] at holds

/-- **A character of ASCII that can be seen**, or the last control character. -/
def IsVisible (c : Char) : Prop :=
  0x20 < c.toNat ∧ c.toNat < 0x80

instance (c : Char) : Decidable (IsVisible c) :=
  inferInstanceAs (Decidable (_ ∧ _))

/-- Where a set holds blanks and control characters, the others of ASCII are visible. -/
theorem isVisible_of_free {reserved : Char → Bool}
    (each : ∀ n < 0x80, reserved (Char.ofNat n) = false → IsVisible (Char.ofNat n))
    (ascii : c.toNat < 0x80) (free : reserved c = false) : IsVisible c :=
  of_ascii (P := fun c => reserved c = false → IsVisible c) each ascii free

/-- **A small letter or a digit**, in ASCII. -/
def isPlain (c : Char) : Bool :=
  c.isLower || c.isDigit

/-- Letters and digits are in ASCII. -/
theorem ascii_of_isAlphanum (alphanum : c.isAlphanum = true) : c.toNat < 0x80 := by
  have bound : ∀ {n : UInt32}, c.val ≤ n → n < 0x80 → c.toNat < 0x80 :=
    fun le lt => Nat.lt_of_le_of_lt le lt
  rcases Bool.or_eq_true_iff.mp alphanum with alpha | digit
  · rcases Bool.or_eq_true_iff.mp alpha with upper | lower
    · exact bound (of_decide_eq_true upper).2 (by decide)
    · exact bound (of_decide_eq_true (Bool.and_eq_true_iff.mp lower).2) (by decide)
  · exact bound (of_decide_eq_true (Bool.and_eq_true_iff.mp digit).2) (by decide)

/-- Plain characters are letters and digits. -/
theorem isAlphanum_of_isPlain (plain : isPlain c = true) : c.isAlphanum = true := by
  rcases Bool.or_eq_true_iff.mp plain with lower | digit
  · exact Bool.or_eq_true_iff.mpr (.inl (Bool.or_eq_true_iff.mpr (.inr lower)))
  · exact Bool.or_eq_true_iff.mpr (.inr digit)

/-- What holds for letters and digits is settled by looking at all of them. -/
theorem of_isAlphanum {P : Char → Prop}
    (each : ∀ n < 0x80, (Char.ofNat n).isAlphanum = true → P (Char.ofNat n))
    (alphanum : c.isAlphanum = true) : P c :=
  of_ascii (P := fun c => c.isAlphanum = true → P c) each (ascii_of_isAlphanum alphanum) alphanum

/-- What holds for plain characters is settled by looking at all of them. -/
theorem of_isPlain {P : Char → Prop}
    (each : ∀ n < 0x80, isPlain (Char.ofNat n) = true → P (Char.ofNat n))
    (plain : isPlain c = true) : P c :=
  of_ascii (P := fun c => isPlain c = true → P c) each
    (ascii_of_isAlphanum (isAlphanum_of_isPlain plain)) plain

end ProxyAutoConfig.Text
