import ProxyAutoConfig.Native.Library
import ProxyAutoConfig.Proofs.Net.Network
import ProxyAutoConfig.Proofs.Script.Numbers
import ProxyAutoConfig.Proofs.Script.Reads
import ProxyAutoConfig.Proofs.Text.Units

/-!
# Dotted addresses as scripts see them

The library takes a host for an address when it is four runs of one to three digits with dots between
them (`Library.isSome_find?_iff`), whatever numbers the runs spell. Of each number the lowest eight bits
count (`addressBits_dotted`), so that the text of an address stands for the address
(`addressBits_addressText`), and a run above 255 stands for an octet that is written otherwise.
-/

namespace ProxyAutoConfig

open ProxyAutoConfig.Net ProxyAutoConfig.Script ProxyAutoConfig.Text

/-! ## Runs of digits -/

/-- **One to three digits.** -/
structure IsRun (cs : List Char) : Prop where
  nonempty : cs ≠ []
  short : cs.length ≤ 3
  digits : ∀ c ∈ cs, c.isDigit = true

/-- Parts with dots between them, in units. -/
def dotted (parts : List (List Char)) : Units :=
  Units.ofChars (['.'].intercalate parts)

/-- **Four runs of digits with dots between them.** -/
def IsDotted (u : Units) : Prop :=
  ∃ a b c d, (IsRun a ∧ IsRun b) ∧ (IsRun c ∧ IsRun d) ∧ u = dotted [a, b, c, d]

theorem dotted_eq (a b c d : List Char) :
    dotted [a, b, c, d] = Units.ofChars a ++ 0x2E :: (Units.ofChars b ++ 0x2E ::
      (Units.ofChars c ++ 0x2E :: Units.ofChars d)) := by
  have joined : ['.'].intercalate [a, b, c, d] = a ++ '.' :: (b ++ '.' :: (c ++ '.' :: d)) := by
    simp [List.intercalate]
  have dot : Units.ofChar '.' = [0x2E] := rfl
  simp only [dotted, joined, Units.ofChars_append, Units.ofChars_cons, dot, List.singleton_append]

/-- A digit is one unit. -/
theorem Text.Units.ofChar_digit {c : Char} (digit : c.isDigit = true) :
    ∃ x, Units.ofChar c = [x] ∧ Regex.isDigit x = true := by
  have each : ∀ n < 0x80, (Char.ofNat n).isDigit = true →
      (Units.ofChar (Char.ofNat n)).all Regex.isDigit = true ∧
        (Units.ofChar (Char.ofNat n)).length = 1 := by decide
  obtain ⟨all, one⟩ := Number.of_isDigit
    (P := fun c => (Units.ofChar c).all Regex.isDigit = true ∧ (Units.ofChar c).length = 1) each digit
  obtain ⟨x, single⟩ := List.length_eq_one_iff.mp one
  rw [single] at all
  exact ⟨x, single, List.all_eq_true.mp all x List.mem_cons_self⟩

/-- Digits are as many units as characters, -/
theorem Text.Units.ofChars_digits {cs : List Char} (digits : ∀ c ∈ cs, c.isDigit = true) :
    (Units.ofChars cs).length = cs.length ∧ ∀ x ∈ Units.ofChars cs, Regex.isDigit x = true := by
  induction cs with
  | nil => exact ⟨rfl, List.forall_mem_nil _⟩
  | cons c cs ih =>
    obtain ⟨digit, digits⟩ := List.forall_mem_cons.mp digits
    obtain ⟨x, single, holds⟩ := Units.ofChar_digit digit
    obtain ⟨length, each⟩ := ih digits
    rw [Units.ofChars_cons, single, List.singleton_append]
    exact ⟨by rw [List.length_cons, List.length_cons, length], List.forall_mem_cons.mpr ⟨holds, each⟩⟩

/-- and units that are digits spell digits. -/
theorem Text.Units.exists_ofChars_digits {u : Units} (digits : ∀ x ∈ u, Regex.isDigit x = true) :
    ∃ cs, u = Units.ofChars cs ∧ cs.length = u.length ∧ ∀ c ∈ cs, c.isDigit = true := by
  induction u with
  | nil => exact ⟨[], rfl, rfl, List.forall_mem_nil _⟩
  | cons x u ih =>
    obtain ⟨digit, digits⟩ := List.forall_mem_cons.mp digits
    obtain ⟨cs, rfl, length, each⟩ := ih digits
    have range : 0x30 ≤ x.toNat ∧ x.toNat < 0x3A := by
      simp only [Regex.isDigit, Bool.and_eq_true, decide_eq_true_eq, UInt16.le_iff_toNat_le] at digit
      exact ⟨digit.1, Nat.lt_succ_of_le digit.2⟩
    have single : Units.ofChar (Char.ofNat x.toNat) = [x.toNat.toUInt16] ∧
        (Char.ofNat x.toNat).isDigit = true :=
      (by decide : ∀ n < 0x3A, 0x30 ≤ n → Units.ofChar (Char.ofNat n) = [n.toUInt16] ∧
        (Char.ofNat n).isDigit = true) x.toNat range.2 range.1
    refine ⟨Char.ofNat x.toNat :: cs, ?_, by rw [List.length_cons, List.length_cons, length],
      List.forall_mem_cons.mpr ⟨single.2, each⟩⟩
    rw [Units.ofChars_cons, single.1, Nat.toUInt16_eq, UInt16.ofNat_toNat, List.singleton_append]

/-- **The library takes a host for an address** when it is four runs of digits with dots between
them. -/
theorem Library.isSome_find?_iff (u : Units) :
    (Library.dottedPattern.find? u 0).isSome ↔ IsDotted u := by
  have reads := Regex.Reads.digits 2 <| .unit 0x2E <| .digits 2 <| .unit 0x2E <| .digits 2 <|
    .unit 0x2E <| .digits 2 <| .lineEnd (.done (u := u))
  rw [Regex.Pattern.isSome_find?_iff rfl rfl ⟨rfl, rfl, rfl, rfl⟩ reads]
  have run {v : Units} (some' : v ≠ []) (short : v.length ≤ 3)
      (digits : ∀ x ∈ v, Regex.isDigit x = true) : ∃ cs, v = Units.ofChars cs ∧ IsRun cs := by
    obtain ⟨cs, rfl, length, digits⟩ := Units.exists_ofChars_digits digits
    exact ⟨cs, rfl, fun nothing => some' (nothing ▸ rfl), length ▸ short, digits⟩
  have back {cs : List Char} (run : IsRun cs) : Units.ofChars cs ≠ [] ∧
      (Units.ofChars cs).length ≤ 3 ∧ ∀ x ∈ Units.ofChars cs, Regex.isDigit x = true := by
    obtain ⟨length, digits⟩ := Units.ofChars_digits run.digits
    refine ⟨fun nothing => run.nonempty (List.eq_nil_of_length_eq_zero ?_), length ▸ run.short, digits⟩
    rw [← length, nothing, List.length_nil]
  constructor
  · rintro ⟨_, _, rfl, s₁, l₁, d₁, _, rfl, _, _, rfl, s₂, l₂, d₂, _, rfl, _, _, rfl, s₃, l₃, d₃, _, rfl,
      _, _, rfl, s₄, l₄, d₄, rfl, _⟩
    obtain ⟨a, rfl, ha⟩ := run s₁ l₁ d₁
    obtain ⟨b, rfl, hb⟩ := run s₂ l₂ d₂
    obtain ⟨c, rfl, hc⟩ := run s₃ l₃ d₃
    obtain ⟨d, rfl, hd⟩ := run s₄ l₄ d₄
    exact ⟨a, b, c, d, ⟨ha, hb⟩, ⟨hc, hd⟩, by rw [dotted_eq, List.append_nil]⟩
  · rintro ⟨a, b, c, d, ⟨ha, hb⟩, ⟨hc, hd⟩, rfl⟩
    obtain ⟨s₁, l₁, d₁⟩ := back ha
    obtain ⟨s₂, l₂, d₂⟩ := back hb
    obtain ⟨s₃, l₃, d₃⟩ := back hc
    obtain ⟨s₄, l₄, d₄⟩ := back hd
    exact ⟨_, _, dotted_eq a b c d, s₁, l₁, d₁, _, rfl, _, _, rfl, s₂, l₂, d₂, _, rfl, _, _, rfl, s₃, l₃,
      d₃, _, rfl, _, _, (List.append_nil _).symm, s₄, l₄, d₄, rfl, trivial⟩

/-! ## The bits of an address -/

/-- The pieces of a text between its dots, as values. -/
def pieces (u : Units) : List Value :=
  (Units.split (Units.ofString ".") u).map .text

/-- The lowest eight bits of the number that a piece spells; a piece that is missing spells none. -/
def octetBits (u : Units) (i : Nat) : BitVec 32 :=
  ((pieces u)[i]?.getD .undefined).plainNumber.toBits &&& 0xFF

/-- **The bits that a script finds for a text**: those of its first four pieces, one behind the other. -/
def addressBits (u : Units) : BitVec 32 :=
  octetBits u 0 <<< 24 ||| octetBits u 1 <<< 16 ||| octetBits u 2 <<< 8 ||| octetBits u 3

/-- Bits that stand above others are added to them. -/
theorem or_of_lt {k n : Nat} (small : n < 2 ^ k) (m : Nat) : m * 2 ^ k ||| n = m * 2 ^ k + n := by
  rw [Nat.mul_comm, Nat.two_pow_add_eq_or_of_lt small]

/-- **Octets that are put side by side** are those of an address. -/
theorem Net.Ipv4.or_eq_ofOctets {a b c d : Nat} (ha : a < 0x100) (hb : b < 0x100) (hc : c < 0x100)
    (hd : d < 0x100) :
    BitVec.ofNat 32 a <<< 24 ||| BitVec.ofNat 32 b <<< 16 ||| BitVec.ofNat 32 c <<< 8 |||
      BitVec.ofNat 32 d = ofOctets a b c d := by
  apply BitVec.eq_of_toNat_eq
  have shifted {n k : Nat} (small : n * 2 ^ k < 2 ^ 32) :
      (BitVec.ofNat 32 n <<< k).toNat = n * 2 ^ k := by
    have below : n < 2 ^ 32 := Nat.lt_of_le_of_lt (Nat.le_mul_of_pos_right n (Nat.two_pow_pos k)) small
    rw [BitVec.toNat_shiftLeft, BitVec.toNat_ofNat, Nat.mod_eq_of_lt below, Nat.shiftLeft_eq,
      Nat.mod_eq_of_lt small]
  have first : a * 2 ^ 24 ||| b * 2 ^ 16 = (a * 0x100 + b) * 2 ^ 16 := by
    rw [or_of_lt (by omega)]
    omega
  have second : (a * 0x100 + b) * 2 ^ 16 ||| c * 2 ^ 8 = ((a * 0x100 + b) * 0x100 + c) * 2 ^ 8 := by
    rw [or_of_lt (by omega)]
    omega
  rw [ofOctets, BitVec.toNat_or, BitVec.toNat_or, BitVec.toNat_or, shifted (by omega),
    shifted (by omega), shifted (by omega), BitVec.toNat_ofNat, Nat.mod_eq_of_lt (by omega : d < 2 ^ 32),
    first, second, or_of_lt (by omega), BitVec.toNat_ofNat, Nat.mod_eq_of_lt (by omega)]
  omega

/-- The number that a run of digits spells. -/
def runValue (cs : List Char) : Nat :=
  Number.digitsValue cs

/-- **The address that four runs of digits stand for**: of each number the lowest eight bits. -/
def runsAddress (a b c d : List Char) : Ipv4 :=
  Ipv4.ofOctets (runValue a % 0x100) (runValue b % 0x100) (runValue c % 0x100) (runValue d % 0x100)

namespace IsRun

variable {cs : List Char} (run : IsRun cs)
include run

/-- A run spells its number for scripts too. -/
theorem toBits_eq : (Number.ofText cs).toBits &&& 0xFF = BitVec.ofNat 32 (runValue cs % 0x100) := by
  obtain ⟨n, value, _⟩ := Number.exists_numberFrom? run.digits 0
  rw [Number.ofText_digits run.nonempty (Nat.le_trans run.short (by decide)) run.digits value, runValue,
    Number.digitsValue, value, Option.getD_some]
  have bits : (Number.int n).toBits = BitVec.ofNat 32 n := BitVec.ofInt_natCast 32 n
  have ones : (0xFF : BitVec 32).toNat = 2 ^ 8 - 1 := rfl
  apply BitVec.eq_of_toNat_eq
  rw [bits, BitVec.toNat_and, ones, Nat.and_two_pow_sub_one_eq_mod, BitVec.toNat_ofNat,
    BitVec.toNat_ofNat]
  omega

/-- No dot is in it. -/
theorem dot_notMem : 0x2E ∉ Units.ofChars cs :=
  fun dot => absurd ((Units.ofChars_digits run.digits).2 _ dot) (by decide)

end IsRun

section

variable {a b c d : List Char}

theorem pieces_dotted (ha : IsRun a) (hb : IsRun b) (hc : IsRun c) (hd : IsRun d) :
    pieces (dotted [a, b, c, d]) = [.text (Units.ofChars a), .text (Units.ofChars b),
      .text (Units.ofChars c), .text (Units.ofChars d)] := by
  have separator : Units.ofString "." = [0x2E] := rfl
  rw [pieces, dotted_eq, separator, Units.split_append ha.dot_notMem, Units.split_append hb.dot_notMem,
    Units.split_append hc.dot_notMem, Units.split_of_notMem hd.dot_notMem]
  rfl

/-- **The bits of a dotted address.** -/
theorem addressBits_dotted (ha : IsRun a) (hb : IsRun b) (hc : IsRun c) (hd : IsRun d) :
    addressBits (dotted [a, b, c, d]) = runsAddress a b c d := by
  have octet {i : Nat} {cs : List Char} (run : IsRun cs)
      (there : (pieces (dotted [a, b, c, d]))[i]? = some (.text (Units.ofChars cs))) :
      octetBits (dotted [a, b, c, d]) i = BitVec.ofNat 32 (runValue cs % 0x100) := by
    rw [octetBits, there, Option.getD_some, Value.plainNumber, Units.escaped_ofChars, run.toBits_eq]
  have parts := pieces_dotted ha hb hc hd
  rw [addressBits, octet ha (by rw [parts]; rfl), octet hb (by rw [parts]; rfl),
    octet hc (by rw [parts]; rfl), octet hd (by rw [parts]; rfl)]
  exact Ipv4.or_eq_ofOctets (Nat.mod_lt _ (by decide)) (Nat.mod_lt _ (by decide))
    (Nat.mod_lt _ (by decide)) (Nat.mod_lt _ (by decide))

end

/-! ## Addresses -/

/-- The text of an address in units. -/
def addressText (bits : Ipv4) : Units :=
  Units.ofChars (Ipv4.text bits)

/-- An octet is written as a run of digits. -/
theorem isRun_decimal {n : Nat} (small : n ≤ 255) : IsRun (decimal n) where
  nonempty := Nat.toDigits_ne_nil
  short := Nat.toDigits_length 10 n 3 (by decide) (by omega)
  digits _ := Ipv4.isDigit_of_mem_decimal

theorem runValue_decimal (n : Nat) : runValue (decimal n) = n := by
  have value : numberFrom? 10 0 (decimal n) = some n :=
    numberFrom?_toDigits (by decide : 1 < 10) (by decide : 10 ≤ 16) n
  rw [runValue, Number.digitsValue, value, Option.getD_some]

/-- **The text of an address is four runs of digits**, -/
theorem exists_runs_addressText (bits : Ipv4) : ∃ a b c d, (IsRun a ∧ IsRun b) ∧ (IsRun c ∧ IsRun d) ∧
    addressText bits = dotted [a, b, c, d] ∧ runsAddress a b c d = bits := by
  have small : ∀ n ∈ Ipv4.octets bits, n ≤ 255 := fun n => Ipv4.le_of_mem_octets
  simp only [Ipv4.octets, List.forall_mem_cons] at small
  obtain ⟨ha, hb, hc, hd, _⟩ := small
  refine ⟨_, _, _, _, ⟨isRun_decimal ha, isRun_decimal hb⟩, ⟨isRun_decimal hc, isRun_decimal hd⟩, rfl, ?_⟩
  simp only [runsAddress, runValue_decimal, Nat.mod_eq_of_lt (Nat.lt_succ_of_le ha),
    Nat.mod_eq_of_lt (Nat.lt_succ_of_le hb), Nat.mod_eq_of_lt (Nat.lt_succ_of_le hc),
    Nat.mod_eq_of_lt (Nat.lt_succ_of_le hd), Ipv4.ofOctets_octets]

/-- so that a script takes it for an address, -/
theorem isDotted_addressText (bits : Ipv4) : IsDotted (addressText bits) := by
  obtain ⟨a, b, c, d, first, last, whole, _⟩ := exists_runs_addressText bits
  exact ⟨a, b, c, d, first, last, whole⟩

/-- **and finds the bits of the address for it.** -/
@[simp] theorem addressBits_addressText (bits : Ipv4) : addressBits (addressText bits) = bits := by
  obtain ⟨a, b, c, d, ⟨ha, hb⟩, ⟨hc, hd⟩, whole, same⟩ := exists_runs_addressText bits
  rw [whole, addressBits_dotted ha hb hc hd, same]

end ProxyAutoConfig
