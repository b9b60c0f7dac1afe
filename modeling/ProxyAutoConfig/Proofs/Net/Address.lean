import ProxyAutoConfig.Proofs.Net.Ipv6
import ProxyAutoConfig.Proofs.Net.Network
import ProxyAutoConfig.Proofs.Url.Sign

/-!
# Addresses of both families, written and read

**An address is read back from its text** (`Address.read_back`), whichever family it is of and whether it
is written in groups or with a dotted form at its end. A text that is read as an address is made of
hexadecimal digits, colons and dots (`Address.parse?_eq_none`), and a colon tells the families apart.
-/

namespace ProxyAutoConfig.Net

open ProxyAutoConfig.Text

namespace Ipv6

/-! ## The dotted form -/

/-- A dot stands in the text of an IPv4 address, so that it is no group. -/
theorem group?_text (low : Ipv4) : group? (Ipv4.text low) = none := by
  have dot : '.' ∈ Ipv4.text low := by
    simp [Ipv4.text, Ipv4.octets]
  rw [group?, number?_eq_none (by decide) dot, ite_self]

/-- **The groups of a dotted form are read** as the halves of the IPv4 address. -/
theorem readSide_dotted (low : Ipv4) :
    readSide true (['f', 'f', 'f', 'f', ':'] ++ Ipv4.text low) =
      some [0xFFFF, low.toNat / 0x10000, low.toNat % 0x10000] := by
  have whole : ['f', 'f', 'f', 'f', ':'] ++ Ipv4.text low =
      [':'].intercalate [['f', 'f', 'f', 'f'], Ipv4.text low] := by
    simp [List.intercalate]
  have colonless : ∀ part ∈ [['f', 'f', 'f', 'f'], Ipv4.text low], ':' ∉ part :=
    List.forall_mem_cons.mpr ⟨by decide,
      List.forall_mem_singleton.mpr (Ipv4.not_mem_text (by decide) rfl)⟩
  have group : group? ['f', 'f', 'f', 'f'] = some 0xFFFF := by decide
  have last : readGroups true [Ipv4.text low] =
      some [low.toNat / 0x10000, low.toNat % 0x10000] := by
    simp only [readGroups, group?_text, Ipv4.parse?_text, if_true, Option.map_some]
  have nonempty : (['f', 'f', 'f', 'f', ':'] ++ Ipv4.text low).isEmpty = false := rfl
  rw [readSide, nonempty, if_neg Bool.false_ne_true, whole,
    List.splitOn_intercalate ':' colonless (List.cons_ne_nil _ _), readGroups, group, last]
  exact List.cons_ne_nil _ _

/-- An address that stands for an IPv4 one is made up by it. -/
theorem ofGroups_of_embedded {bits : Ipv6} {low : Ipv4} (embedded : embedded? bits = some low) :
    ofGroups ([] ++ List.replicate 5 0 ++ [0xFFFF, low.toNat / 0x10000, low.toNat % 0x10000]) = bits := by
  unfold embedded? at embedded
  split at embedded
  next high =>
    obtain rfl : BitVec.ofNat 32 bits.toNat = low := Option.some.inj embedded
    apply BitVec.eq_of_toNat_eq
    rw [ofGroups, BitVec.toNat_ofNat]
    simp only [List.nil_append, List.replicate, List.cons_append, List.foldl_cons, List.foldl_nil,
      BitVec.toNat_ofNat]
    omega
  next => cases embedded

/-- **An address is read back** from its text in groups or with the dotted form. -/
theorem parse?_mixedText (bits : Ipv6) : parse? (mixedText bits) = some bits := by
  cases embedded : embedded? bits with
  | none =>
    rw [mixedText, embedded]
    exact parse?_text bits
  | some low =>
    have cut : cut? [':', ':'] (mixedText bits) =
        some ([], ['f', 'f', 'f', 'f', ':'] ++ Ipv4.text low) := by
      rw [mixedText, embedded]
      rfl
    rw [parse?, cut]
    simp only [readSide_dotted]
    exact congrArg some (ofGroups_of_embedded embedded)

/-! ## Colons -/

/-- Between groups stands a colon. -/
theorem colon_mem_groupsText (g h : Nat) (gs : List Nat) : ':' ∈ groupsText (g :: h :: gs) := by
  rw [groupsText, List.map_cons, List.map_cons, List.intercalate_cons_cons, List.append_assoc]
  exact List.mem_append_right _ List.mem_cons_self

/-- **A colon stands in every address.** -/
theorem colon_mem_mixedText (bits : Ipv6) : ':' ∈ mixedText bits := by
  rw [mixedText]
  split
  next => exact List.mem_cons_self
  next =>
    rw [text]
    simp only
    split
    next => exact colon_mem_groupsText _ _ _
    next => exact List.mem_append_left _ (List.mem_append_right _ List.mem_cons_self)

end Ipv6

/-! ## Both families -/

namespace Address

/-- **A text that is read as an address** is made of hexadecimal digits, colons and dots. -/
theorem parse?_eq_none {c : Char} {cs : List Char} (digit : Percent.hexValue? c = none) (dot : c ≠ '.')
    (colon : c ≠ ':') (mem : c ∈ cs) : parse? cs = none := by
  rw [parse?, Ipv4.parse?_eq_none digit dot mem, Ipv6.parse?_eq_none digit dot colon mem]
  rfl

/-- **An address is read back from its text.** -/
theorem read_back (a : Address) : parse? a.text = some a := by
  cases a with
  | v4 bits => exact parse?_text bits
  | v6 bits =>
    have other : Ipv4.parse? (Ipv6.mixedText bits) = none :=
      Ipv4.parse?_eq_none (by decide) (by decide) (Ipv6.colon_mem_mixedText bits)
    rw [text, parse?, other, Ipv6.parse?_mixedText]
    rfl

end Address

end ProxyAutoConfig.Net
