import ProxyAutoConfig.Net.Ipv4
import ProxyAutoConfig.Proofs.Text.Ascii
import ProxyAutoConfig.Proofs.Text.Cut
import ProxyAutoConfig.Proofs.Text.Digits

/-!
# IPv4 addresses as host names

The text of an address is a host name that ends in a number, and it is read back as the address:
none of its octets begins with a zero that would make it octal.
-/

namespace ProxyAutoConfig.Net.Ipv4

open ProxyAutoConfig.Text

/-! ## Parts of a host name -/

/-- A host name falls apart into the parts that it was joined from, where none of them is empty. -/
theorem hostParts_intercalate {parts : List (List Char)} (nonempty : parts ≠ [])
    (named : ∀ part ∈ parts, part ≠ []) (plain : ∀ part ∈ parts, '.' ∉ part) :
    hostParts (['.'].intercalate parts) = parts := by
  have kept : ¬ (1 < parts.length ∧ parts.getLast? = some []) :=
    fun last => named [] (List.mem_of_getLast? last.2) rfl
  simp only [hostParts, List.splitOn_intercalate '.' plain nonempty, if_neg kept]

/-- **A host name ends in a number when its last part is one.** -/
theorem endsInNumber_intercalate {parts : List (List Char)} {last : List Char}
    (back : parts.getLast? = some last) (named : ∀ part ∈ parts, part ≠ [])
    (plain : ∀ part ∈ parts, '.' ∉ part) :
    endsInNumber (['.'].intercalate parts) =
      ((!last.isEmpty && last.all Char.isDigit) || (hostNumber? last).isSome) := by
  have nonempty : parts ≠ [] := List.ne_nil_of_mem (List.mem_of_getLast? back)
  simp only [endsInNumber, hostParts_intercalate nonempty named plain, back]

/-! ## Octets -/

/-- A number in decimal digits is read as itself. -/
theorem hostNumber?_decimal (n : Nat) : hostNumber? (decimal n) = some n := by
  by_cases zero : n = 0
  · subst zero
    decide
  · obtain ⟨c, cs, digits, leading⟩ := exists_cons_toDigits (Nat.pos_of_ne_zero zero)
    rw [decimal, ← decimal?_toDigits n, digits]
    unfold hostNumber?
    split
    · next h => cases h
    · next h => exact absurd (List.cons.inj h).1 leading
    · next h => exact absurd (List.cons.inj h).1 leading
    · next h => exact absurd (List.cons.inj h).1 leading
    · rfl

/-- The decimal digits of a number are plain characters. -/
theorem isDigit_of_mem_decimal {n : Nat} {c : Char} (mem : c ∈ decimal n) : c.isDigit = true := by
  obtain ⟨d, hd, rfl⟩ := exists_digitChar_of_mem (by decide) mem
  exact (by decide : ∀ d < 10, (Nat.digitChar d).isDigit = true) d hd

/-- An octet is put in front of the number behind it. -/
theorem joinNumbers_cons {room octet n : Nat} {rest : List Nat} (more : rest ≠ [])
    (small : octet ≤ 255) (behind : joinNumbers room rest = some n) :
    joinNumbers (room + 1) (octet :: rest) = some (octet * Nat.pow 0x100 room + n) := by
  cases rest with
  | nil => exact absurd rfl more
  | cons next rest => simp only [joinNumbers, behind, if_pos small]

/-- The octets of an address make it up. -/
theorem joinNumbers_octets (bits : Ipv4) : joinNumbers 4 (octets bits) = some bits.toNat := by
  have small := bits.isLt
  have last : joinNumbers 1 [bits.toNat % 0x100] = some (bits.toNat % 0x100) :=
    if_pos (Nat.mod_lt _ (by decide))
  have third := joinNumbers_cons (List.cons_ne_nil _ _)
    (show bits.toNat / 0x100 % 0x100 ≤ 255 by omega) last
  have second := joinNumbers_cons (List.cons_ne_nil _ _)
    (show bits.toNat / 0x10000 % 0x100 ≤ 255 by omega) third
  have whole := joinNumbers_cons (List.cons_ne_nil _ _)
    (show bits.toNat / 0x1000000 ≤ 255 by omega) second
  rw [octets, whole, Option.some.injEq]
  simp only [(by decide : Nat.pow 0x100 1 = 0x100), (by decide : Nat.pow 0x100 2 = 0x10000),
    (by decide : Nat.pow 0x100 3 = 0x1000000)]
  omega

/-! ## Addresses -/

section

variable (bits : Ipv4)

/-- The parts of an address are not empty. -/
theorem ne_nil_of_mem_octets : ∀ part ∈ (octets bits).map decimal, part ≠ [] := by
  intro part mem
  obtain ⟨octet, _, rfl⟩ := List.mem_map.mp mem
  exact Nat.toDigits_ne_nil

/-- They are made of digits. -/
theorem isDigit_of_mem_octets :
    ∀ part ∈ (octets bits).map decimal, ∀ c ∈ part, c.isDigit = true := by
  intro part mem c hc
  obtain ⟨octet, _, rfl⟩ := List.mem_map.mp mem
  exact isDigit_of_mem_decimal hc

/-- So there is no dot in them. -/
theorem dot_not_mem_octets : ∀ part ∈ (octets bits).map decimal, '.' ∉ part :=
  fun part mem dot => absurd (isDigit_of_mem_octets bits part mem '.' dot) (by decide)

/-- An address is written in digits and dots, and no other character stands in it. -/
theorem not_mem_text {bits : Ipv4} {c : Char} (dot : c ≠ '.') (digit : c.isDigit = false) :
    c ∉ text bits := by
  intro mem
  rcases mem_intercalate mem with h | ⟨part, hp, hc⟩
  · exact dot h
  · rw [isDigit_of_mem_octets bits part hp c hc] at digit
    cases digit

/-- An address ends in a number. -/
theorem endsInNumber_text : endsInNumber (text bits) = true := by
  have back : ((octets bits).map decimal).getLast? = some (decimal (bits.toNat % 0x100)) := rfl
  have mem := List.mem_of_getLast? back
  have digits := List.all_eq_true.mpr (isDigit_of_mem_octets bits _ mem)
  have nonempty := List.isEmpty_eq_false_iff.mpr (ne_nil_of_mem_octets bits _ mem)
  rw [text, endsInNumber_intercalate back (ne_nil_of_mem_octets bits) (dot_not_mem_octets bits),
    nonempty, digits]
  rfl

/-- **An address is read back from its text** as a host name. -/
theorem parseHost?_text : parseHost? (text bits) = some bits := by
  have nonempty : (octets bits).map decimal ≠ [] := List.cons_ne_nil _ _
  have parts := hostParts_intercalate nonempty (ne_nil_of_mem_octets bits) (dot_not_mem_octets bits)
  have numbers : ((octets bits).map decimal).mapM hostNumber? = some (octets bits) := by
    simp only [octets, List.map_cons, List.map_nil, List.mapM_cons, hostNumber?_decimal,
      List.mapM_nil]
    rfl
  simp only [parseHost?, text, parts, numbers, joinNumbers_octets, Option.map_some,
    BitVec.ofNat_toNat, BitVec.setWidth_eq]

end

end ProxyAutoConfig.Net.Ipv4
