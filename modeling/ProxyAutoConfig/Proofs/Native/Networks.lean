import ProxyAutoConfig.Native.Function
import ProxyAutoConfig.Proofs.Net.Address
import ProxyAutoConfig.Proofs.Net.LeadingBits
import ProxyAutoConfig.Proofs.Text.Decimal

/-!
# Networks as texts

A text writes a network when it holds, between blanks, an address and the number of bits that count, with
a slash in between (`Network.parse?_eq_some_iff`).

**The law** (`HostFunction.isInNetEx_iff_leading`): an address lies in the network that a text writes when
it is of the network's family and has the same leading bits, as many as the text says. So it lies in every
shorter network of the same address, and to lie in each other's networks of one length is an equivalence.
-/

namespace ProxyAutoConfig

open ProxyAutoConfig.Net ProxyAutoConfig.Text

namespace Text.SpellsWord

/-- A number is spelled by its digits. -/
theorem decimal {n : Nat} (small : n < 2 ^ 32) : SpellsWord (decimal n) n where
  spelled := ⟨_, .inl rfl, decimal?_eq_some_iff.mp (decimal?_toDigits n)⟩
  small := small

/-- No blank is part of a number. -/
theorem not_isBlank_of_mem {cs : List Char} {n : Nat} (spelled : SpellsWord cs n) {c : Char} (mem : c ∈ cs) :
    isBlank c = false := by
  rcases spelled.digit_of_mem mem with rfl | digit
  · rfl
  · exact of_isAlphanum (P := fun c => isBlank c = false) (by decide) (Bool.or_eq_true_iff.mpr (.inr digit))

end Text.SpellsWord

namespace Net

/-- An address has no blank in it, -/
theorem Address.isBlank_of_parse? {cs : List Char} {a : Address} (read : Address.parse? cs = some a)
    {c : Char} (mem : c ∈ cs) : isBlank c = false := by
  rw [Bool.eq_false_iff]
  intro blank
  have digit : Percent.hexValue? c = none := Option.not_isSome_iff_eq_none.mp fun value => by
    have free := of_ascii (P := fun c => (Percent.hexValue? c).isSome = true → isBlank c = false)
      (by decide) (Percent.ascii_of_hexValue? value) value
    rw [free] at blank
    cases blank
  have dot : c ≠ '.' := fun dot => absurd (dot ▸ blank) (by decide)
  have colon : c ≠ ':' := fun colon => absurd (colon ▸ blank) (by decide)
  rw [Address.parse?_eq_none digit dot colon mem] at read
  cases read

/-- and no slash. -/
theorem Address.slash_notMem {cs : List Char} {a : Address} (read : Address.parse? cs = some a) :
    '/' ∉ cs := by
  intro mem
  rw [Address.parse?_eq_none (by decide) (by decide) (by decide) mem] at read
  cases read

namespace Network

/-- **A text writes a network** when it is an address and a length with a slash in between. -/
theorem parse?_eq_some_iff {cs : List Char} {n : Network} :
    parse? cs = some n ↔ ∃ front back, trim cs = front ++ '/' :: back ∧ '/' ∉ front ∧
      Address.parse? front = some n.base ∧ SpellsWord back n.length := by
  constructor
  · intro read
    unfold parse? at read
    split at read
    next front back cut =>
      obtain ⟨whole, absent⟩ := eq_of_cutFirst? cut
      split at read
      next base length base' length' =>
        obtain rfl : (⟨base, length⟩ : Network) = n := Option.some.inj read
        exact ⟨front, back, whole, absent, base', word?_eq_some_iff.mp length'⟩
      next => cases read
    next => cases read
  · rintro ⟨front, back, whole, absent, base, length⟩
    rw [parse?, whole, cutFirst?_append absent]
    simp only [base, word?_eq_some_iff.mpr length]

/-- **Every spelling of a network is read.** -/
theorem parse?_spelled {front back : List Char} {base : Address} {length : Nat}
    (read : Address.parse? front = some base) (spelled : SpellsWord back length) :
    parse? (front ++ '/' :: back) = some ⟨base, length⟩ := by
  have solid : ∀ c ∈ front ++ '/' :: back, isBlank c = false := by
    intro c mem
    rcases List.mem_append.mp mem with mem | mem
    · exact Address.isBlank_of_parse? read mem
    · rcases List.mem_cons.mp mem with rfl | mem
      · rfl
      · exact spelled.not_isBlank_of_mem mem
  refine parse?_eq_some_iff.mpr ⟨front, back, ?_, Address.slash_notMem read, read, spelled⟩
  exact reverse_dropWhile_eq_self_of_free solid

/-- The text of a network. -/
def text (n : Network) : List Char :=
  n.base.text ++ '/' :: decimal n.length

/-- A network is read back from its text. -/
theorem read_back {n : Network} (small : n.length < 2 ^ 32) : parse? n.text = some n :=
  parse?_spelled (Address.read_back n.base) (.decimal small)

end Network

/-! ## Addresses in networks -/

namespace Address

variable {a : Address}

/-- To lie in a network that is spelled is to be held by it. -/
theorem liesIn_spelled {front back : List Char} {base : Address} {length : Nat}
    (read : parse? front = some base) (spelled : SpellsWord back length) :
    a.liesIn (front ++ '/' :: back) = Network.holds ⟨base, length⟩ a := by
  rw [liesIn, Network.parse?_spelled read spelled]

/-- So it is for the text of a network. -/
theorem liesIn_text {n : Network} (small : n.length < 2 ^ 32) : a.liesIn n.text = n.holds a := by
  rw [liesIn, Network.read_back small]

/-- **An address lies in the network that a text writes** when it has the leading bits. -/
theorem liesIn_iff {network : List Char} :
    a.liesIn network = true ↔ ∃ front back base length, trim network = front ++ '/' :: back ∧
      '/' ∉ front ∧ parse? front = some base ∧ SpellsWord back length ∧
      base.isV4 = a.isV4 ∧ length ≤ a.width ∧
      a.number / 2 ^ (a.width - length) = base.number / 2 ^ (a.width - length) := by
  rw [liesIn]
  constructor
  · intro lies
    split at lies
    next n read =>
      obtain ⟨front, back, whole, absent, base, length⟩ := Network.parse?_eq_some_iff.mp read
      exact ⟨front, back, n.base, n.length, whole, absent, base, length, Network.holds_iff.mp lies⟩
    next => cases lies
  · rintro ⟨front, back, base, length, whole, absent, read, spelled, leading⟩
    rw [Network.parse?_eq_some_iff (n := ⟨base, length⟩).mpr ⟨front, back, whole, absent, read, spelled⟩]
    exact Network.holds_iff.mpr leading

end Address

namespace Network

/-- **To lie in each other's networks of one length** is an equivalence between the addresses of a family;
`address` is how an address of that family is made. -/
theorem equivalence_liesIn {α : Type} {address : α → Address} {width length : Nat}
    (family : ∀ a, (address a).width = width) (fits : length ≤ width) (small : length < 2 ^ 32) :
    Equivalence fun a b : α => (address a).liesIn (text ⟨address b, length⟩) = true where
  refl a := by
    rw [Address.liesIn_text small]
    exact holds_self (family a ▸ fits)
  symm first := by
    rw [Address.liesIn_text small] at first ⊢
    exact holds_symm first
  trans first second := by
    rw [Address.liesIn_text small] at first second ⊢
    exact holds_trans first second

end Network

end Net

namespace HostFunction

/-- **A script's test on networks compares leading bits.** An address lies in the network that a text
writes when the text, without the blanks around it, falls at its first slash into an address of the same
family and a number of bits that the family has, and the two addresses have these leading bits in common.
No step of the comparison overflows. An address that lies in a network lies in every shorter one of the
same address, and for each length that a family has, to lie in each other's networks is an equivalence
between its addresses. -/
theorem isInNetEx_iff_leading :
    (∀ address network : String, isInNetEx address network = true ↔
      ∃ a, Address.parse? address.toList = some a ∧ a.liesIn network.toList = true) ∧
    (∀ (a : Address) (network : List Char), a.liesIn network = true ↔
      ∃ front back base length, trim network = front ++ '/' :: back ∧ '/' ∉ front ∧
        Address.parse? front = some base ∧ SpellsWord back length ∧
        base.isV4 = a.isV4 ∧ length ≤ a.width ∧
        a.number / 2 ^ (a.width - length) = base.number / 2 ^ (a.width - length)) ∧
    (∀ {width : Nat} (length : Nat) (a b : BitVec width),
      Network.agree? length a b = some (Network.agree length a b)) ∧
    (∀ (a base : Address) (front back back' : List Char) (length shorter : Nat),
      Address.parse? front = some base → SpellsWord back length → SpellsWord back' shorter →
      shorter ≤ length → a.liesIn (front ++ '/' :: back) = true →
      a.liesIn (front ++ '/' :: back') = true) ∧
    (∀ length ≤ 32, Equivalence fun a b : Ipv4 =>
      (Address.v4 a).liesIn (Network.text ⟨.v4 b, length⟩) = true) ∧
    (∀ length ≤ 128, Equivalence fun a b : Ipv6 =>
      (Address.v6 a).liesIn (Network.text ⟨.v6 b, length⟩) = true) := by
  refine ⟨?_, fun a network => Address.liesIn_iff, fun length => Network.agree?_eq length, ?_, ?_, ?_⟩
  · intro address network
    rw [isInNetEx]
    split
    next a read =>
      rw [read]
      exact ⟨fun lies => ⟨a, rfl, lies⟩, fun ⟨b, same, lies⟩ => Option.some.inj same ▸ lies⟩
    next none' => exact iff_of_false Bool.false_ne_true fun ⟨a, read, _⟩ => nomatch none'.symm.trans read
  · intro a base front back back' length shorter read spelled spelled' le lies
    rw [Address.liesIn_spelled read spelled] at lies
    rw [Address.liesIn_spelled read spelled']
    exact Network.holds_of_le le lies
  · intro length fits
    exact Network.equivalence_liesIn (fun _ => rfl) fits (Nat.lt_of_le_of_lt fits (by decide))
  · intro length fits
    exact Network.equivalence_liesIn (fun _ => rfl) fits (Nat.lt_of_le_of_lt fits (by decide))

/-- So an address of a network of sixteen bits lies in that of eight, however the number is spelled, and
an IPv6 address lies in the network of another one when that one lies in its own. -/
theorem isInNetEx_iff_leading_shorter :
    SpellsWord "16".toList 16 ∧ SpellsWord "+08".toList 8 ∧ 8 ≤ 16 ∧
      (Address.v4 (Ipv4.ofOctets 198 95 249 79)).liesIn "198.95.0.0/16".toList = true ∧
      (Address.v4 (Ipv4.ofOctets 198 95 249 79)).liesIn "198.95.0.0/+08".toList = true ∧ 128 ≤ 128 ∧
      (Address.v6 (Ipv6.ofGroups [0x2001, 0xDB8, 0, 0, 0, 0, 0, 1])).liesIn
        (Network.text ⟨.v6 (Ipv6.ofGroups [0x2001, 0xDB8, 0, 0, 0, 0, 0, 1]), 128⟩) = true := by
  have long : SpellsWord "16".toList 16 := word?_eq_some_iff.mp (by decide)
  have short : SpellsWord "+08".toList 8 := word?_eq_some_iff.mp (by decide)
  have base : Address.parse? "198.95.0.0".toList = some (.v4 (Ipv4.ofOctets 198 95 0 0)) := by
    decide +kernel
  have lies : (Address.v4 (Ipv4.ofOctets 198 95 249 79)).liesIn "198.95.0.0/16".toList = true := by
    decide +kernel
  exact ⟨long, short, by decide, lies,
    isInNetEx_iff_leading.2.2.2.1 _ _ "198.95.0.0".toList _ _ 16 8 base long short (by decide) lies,
    Nat.le_refl _, (isInNetEx_iff_leading.2.2.2.2.2 128 (Nat.le_refl _)).refl _⟩

end HostFunction

end ProxyAutoConfig
