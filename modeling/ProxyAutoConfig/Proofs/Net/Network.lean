import Mathlib.Data.List.Induction
import ProxyAutoConfig.Net.Address
import ProxyAutoConfig.Proofs.Net.Ipv4
import ProxyAutoConfig.Proofs.Text.Percent

/-!
# Addresses and networks, written and read

The strict form of an IPv4 address has one spelling: it reads back as the address (`Ipv4.parse?_text`),
and nothing else reads as the address (`Ipv4.eq_text_of_parse?`). A network that is written as an address
and a length is read back too (`Network.parse?_written`).
-/

namespace ProxyAutoConfig

open ProxyAutoConfig.Text

namespace Text

/-! ## Decimal digits -/

/-- A character that spells a decimal digit is the written digit. -/
theorem eq_digitChar_of_digitIn? {c : Char} {d : Nat} (digit : digitIn? 10 c = some d) :
    d < 10 ∧ c = Nat.digitChar d := by
  have ascii : c.toNat < 0x80 := by
    refine Percent.ascii_of_hexValue? ?_
    unfold digitIn? at digit
    split at digit
    next same => rw [same]; rfl
    next => cases digit
  have same := of_ascii
    (P := fun c => (digitIn? 10 c).all fun d => decide (d < 10) && c == Nat.digitChar d) (by decide) ascii
  rw [digit] at same
  obtain ⟨small, same⟩ := Bool.and_eq_true_iff.mp same
  exact ⟨of_decide_eq_true small, beq_iff_eq.mp same⟩

/-- Digits that are read one part after the other. -/
theorem exists_of_numberFrom?_append {base done n : Nat} {front back : List Char}
    (read : numberFrom? base done (front ++ back) = some n) :
    ∃ m, numberFrom? base done front = some m ∧ numberFrom? base m back = some n := by
  induction front generalizing done with
  | nil => exact ⟨done, rfl, read⟩
  | cons c cs ih =>
    rw [List.cons_append, numberFrom?] at read
    rw [numberFrom?]
    cases digit : digitIn? base c with
    | none => rw [digit] at read; cases read
    | some d =>
      rw [digit] at read
      exact ih read

/-- **A number has one spelling without a zero in front.** -/
theorem eq_toDigits_of_numberFrom? {cs : List Char} {n : Nat} (some' : cs ≠ [])
    (leading : 1 < cs.length → cs.head? ≠ some '0') (read : numberFrom? 10 0 cs = some n) :
    cs = Nat.toDigits 10 n := by
  induction cs using List.reverseRecOn generalizing n with
  | nil => exact absurd rfl some'
  | append_singleton front c ih =>
    obtain ⟨m, first, last⟩ := exists_of_numberFrom?_append read
    rw [numberFrom?] at last
    cases value : digitIn? 10 c with
    | none => rw [value] at last; cases last
    | some d =>
      rw [value] at last
      obtain rfl : m * 10 + d = n := Option.some.inj last
      obtain ⟨small, rfl⟩ := eq_digitChar_of_digitIn? value
      cases front with
      | nil =>
        obtain rfl : 0 = m := Option.some.inj first
        rw [Nat.zero_mul, Nat.zero_add, Nat.toDigits_of_lt_base small, List.nil_append]
      | cons a front =>
        have leading : a ≠ '0' := fun same => leading (by simp) (congrArg some same)
        have written := ih (List.cons_ne_nil _ _) (fun _ same => leading (Option.some.inj same)) first
        have positive : m ≠ 0 := by
          rintro rfl
          exact leading (List.cons.inj written).1
        have quotient : (m * 10 + d) / 10 = m := by omega
        have remainder : (m * 10 + d) % 10 = d := by omega
        rw [Nat.toDigits_eq_if (by decide), if_neg (by omega), quotient, remainder, written]

end Text

namespace Net

/-! ## The strict form -/

namespace Ipv4

/-- An octet is read back from its spelling, -/
theorem octet?_decimal {n : Nat} (small : n ≤ 255) : octet? (decimal n) = some n :=
  (by decide +kernel : ∀ n < 256, octet? (decimal n) = some n) n (Nat.lt_succ_of_le small)

/-- and has no other one. -/
theorem eq_decimal_of_octet? {cs : List Char} {n : Nat} (read : octet? cs = some n) :
    n ≤ 255 ∧ cs = decimal n := by
  unfold octet? at read
  split at read
  next => cases read
  next strict =>
    split at read
    next => cases read
    next =>
      cases value : decimal? cs with
      | none => rw [value] at read; cases read
      | some m =>
        simp only [value] at read
        split at read
        next small =>
          obtain rfl : m = n := Option.some.inj read
          rw [decimal?, number?] at value
          split at value
          next => cases value
          next some' =>
            refine ⟨small, eq_toDigits_of_numberFrom? (fun nothing => some' (nothing ▸ rfl)) ?_ value⟩
            exact fun long zero => strict ⟨long, zero⟩
        next => cases read

theorem le_of_mem_octets {bits : Ipv4} {n : Nat} (mem : n ∈ octets bits) : n ≤ 255 := by
  have small := bits.isLt
  simp only [octets, List.mem_cons, List.not_mem_nil, or_false] at mem
  omega

/-- The octets of an address make it up. -/
theorem ofOctets_octets (bits : Ipv4) :
    ofOctets (bits.toNat / 0x1000000) (bits.toNat / 0x10000 % 0x100) (bits.toNat / 0x100 % 0x100)
      (bits.toNat % 0x100) = bits := by
  have sum : ((bits.toNat / 0x1000000 * 0x100 + bits.toNat / 0x10000 % 0x100) * 0x100 +
      bits.toNat / 0x100 % 0x100) * 0x100 + bits.toNat % 0x100 = bits.toNat := by omega
  rw [ofOctets, sum, BitVec.ofNat_toNat, BitVec.setWidth_eq]

/-- And octets are those of the address that they make up. -/
theorem octets_ofOctets {a b c d : Nat} (ha : a ≤ 255) (hb : b ≤ 255) (hc : c ≤ 255) (hd : d ≤ 255) :
    octets (ofOctets a b c d) = [a, b, c, d] := by
  have small : ((a * 0x100 + b) * 0x100 + c) * 0x100 + d < 2 ^ 32 := by omega
  simp only [octets, ofOctets, BitVec.toNat_ofNat, Nat.mod_eq_of_lt small, List.cons.injEq, and_true]
  omega

/-- **An address is read back from its text.** -/
theorem parse?_text (bits : Ipv4) : parse? (text bits) = some bits := by
  have nonempty : (octets bits).map decimal ≠ [] := List.cons_ne_nil _ _
  have each : ((octets bits).map decimal).map octet? = (octets bits).map some := by
    rw [List.map_map]
    exact List.map_congr_left fun n mem => octet?_decimal (le_of_mem_octets mem)
  rw [parse?, text, List.splitOn_intercalate '.' (dot_not_mem_octets bits) nonempty, each]
  simp only [octets, List.map_cons, List.map_nil, ofOctets_octets]

/-- **Nothing but its text reads as an address.** -/
theorem eq_text_of_parse? {cs : List Char} {bits : Ipv4} (read : parse? cs = some bits) :
    cs = text bits := by
  unfold parse? at read
  split at read
  next a b c d parts =>
    obtain rfl : ofOctets a b c d = bits := Option.some.inj read
    obtain ⟨p, _, cut, hp, parts⟩ := List.map_eq_cons_iff.mp parts
    obtain ⟨q, _, rfl, hq, parts⟩ := List.map_eq_cons_iff.mp parts
    obtain ⟨r, _, rfl, hr, parts⟩ := List.map_eq_cons_iff.mp parts
    obtain ⟨s, _, rfl, hs, parts⟩ := List.map_eq_cons_iff.mp parts
    obtain rfl := List.map_eq_nil_iff.mp parts
    obtain ⟨ha, rfl⟩ := eq_decimal_of_octet? hp
    obtain ⟨hb, rfl⟩ := eq_decimal_of_octet? hq
    obtain ⟨hc, rfl⟩ := eq_decimal_of_octet? hr
    obtain ⟨hd, rfl⟩ := eq_decimal_of_octet? hs
    have whole : ['.'].intercalate (cs.splitOn '.') = cs := List.intercalate_splitOn '.'
    rw [cut] at whole
    rw [text, octets_ofOctets ha hb hc hd, ← whole]
    rfl
  next => cases read

end Ipv4

/-- So it is read where an address of either family may stand. -/
theorem Address.parse?_text (bits : Ipv4) : parse? (Ipv4.text bits) = some (.v4 bits) := by
  rw [parse?, Ipv4.parse?_text]

/-! ## Networks -/

namespace Network

/-- A network as an address and a length. -/
def written (base : Ipv4) (length : Nat) : List Char :=
  Ipv4.text base ++ '/' :: decimal length

/-- **A network is read back.** -/
theorem parse?_written (base : Ipv4) {length : Nat} (small : length < 0x100000000) :
    parse? (written base length) = some ⟨.v4 base, length⟩ := by
  have digit {c : Char} (mem : c ∈ decimal length) : c.isDigit = true := Ipv4.isDigit_of_mem_decimal mem
  have solid : ∀ c ∈ written base length, isBlank c = false := by
    intro c mem
    rcases List.mem_append.mp mem with mem | mem
    · by_contra blank
      refine Ipv4.not_mem_text (fun dot => ?_) (Bool.eq_false_iff.mpr fun digit => ?_) mem
      · exact blank (dot ▸ rfl)
      · exact blank (of_isAlphanum (P := fun c => isBlank c = false) (by decide)
          (Bool.or_eq_true_iff.mpr (.inr digit)))
    · rcases List.mem_cons.mp mem with rfl | mem
      · rfl
      · exact of_isAlphanum (P := fun c => isBlank c = false) (by decide)
          (Bool.or_eq_true_iff.mpr (.inr (digit mem)))
  have slash : '/' ∉ Ipv4.text base := Ipv4.not_mem_text (by decide) rfl
  have unsigned : ¬ (decimal length).head? = some '+' := fun plus =>
    absurd (digit (List.mem_of_mem_head? plus)) (by decide)
  have read : decimal? (decimal length) = some length := decimal?_toDigits length
  simp only [parse?, trim, trimStart, trimEnd, reverse_dropWhile_eq_self_of_free solid]
  rw [written, cutFirst?_append slash]
  simp only [Address.parse?_text, word?, if_neg unsigned, read, if_pos small]

end Network

end Net

end ProxyAutoConfig
