import ProxyAutoConfig.Proofs.Idna.Sign
import ProxyAutoConfig.Proofs.Text.Digits
import ProxyAutoConfig.Url.Host

/-!
# Signs in hosts

A host with a sign in it that no host may hold is refused, and the flaw tells no more than whether
the host begins with a bracket. The sign cannot be hidden: escapes and flaws in the bytes around it
leave it where it stands, and so does the way of a name to its ASCII form.

A colon is such a sign outside brackets, an at sign is one everywhere.
-/

namespace ProxyAutoConfig

open ProxyAutoConfig.Net ProxyAutoConfig.Text

variable {c : Char} {cs : List Char}

/-! ## Addresses -/

/-- An IPv4 address consists of digits and dots. -/
theorem Net.Ipv4.parse?_eq_none (digit : Percent.hexValue? c = none) (dot : c ≠ '.')
    (mem : c ∈ cs) : Ipv4.parse? cs = none := by
  obtain ⟨part, member, hc⟩ := exists_mem_splitOn dot mem
  have refused : Ipv4.octet? part = none := by
    simp only [Ipv4.octet?, decimal?, number?_eq_none digit hc, ite_self]
  have spoiled : none ∈ (cs.splitOn '.').map Ipv4.octet? :=
    List.mem_map.mpr ⟨part, member, refused⟩
  rw [Ipv4.parse?]
  split
  · next four =>
    rw [four] at spoiled
    simp only [List.mem_cons, reduceCtorEq, List.not_mem_nil, or_self] at spoiled
  · rfl

/-- The groups of an IPv6 address consist of hexadecimal digits, but for an IPv4 address at the
end. -/
theorem Net.Ipv6.readGroups_eq_none (digit : Percent.hexValue? c = none) (dot : c ≠ '.')
    (dotted : Bool) {parts : List (List Char)} (mem : ∃ part ∈ parts, c ∈ part) :
    Ipv6.readGroups dotted parts = none := by
  have refused : ∀ {part : List Char}, c ∈ part → Ipv6.group? part = none := fun mem => by
    simp only [Ipv6.group?, number?_eq_none digit mem, ite_self]
  induction parts with
  | nil =>
    obtain ⟨_, none, _⟩ := mem
    cases none
  | cons part rest ih =>
    obtain ⟨found, member, hc⟩ := mem
    cases rest with
    | nil =>
      obtain rfl := List.mem_singleton.mp member
      simp only [Ipv6.readGroups, refused hc, Ipv4.parse?_eq_none digit dot hc, Option.map_none,
        ite_self]
    | cons next rest =>
      rw [Ipv6.readGroups]
      · rcases List.mem_cons.mp member with rfl | member
        · simp only [refused hc]
        · rw [ih ⟨found, member, hc⟩]
          cases Ipv6.group? part <;> rfl
      · nofun

/-- **An IPv6 address consists of hexadecimal digits, colons and dots.** -/
theorem Net.Ipv6.parse?_eq_none (digit : Percent.hexValue? c = none) (dot : c ≠ '.')
    (colon : c ≠ ':') (mem : c ∈ cs) : Ipv6.parse? cs = none := by
  have side : ∀ {dotted : Bool} {part : List Char}, c ∈ part →
      Ipv6.readSide dotted part = none := by
    intro dotted part mem
    have nonempty : part.isEmpty = false := List.isEmpty_eq_false_iff.mpr (List.ne_nil_of_mem mem)
    simp only [Ipv6.readSide, nonempty, Bool.false_eq_true, if_false,
      Ipv6.readGroups_eq_none digit dot dotted (exists_mem_splitOn colon mem)]
  rw [Ipv6.parse?]
  split
  · rw [side mem]
  · next front back cut =>
    rw [eq_of_cut? cut] at mem
    rcases List.mem_append.mp mem with mem | behind
    · rcases List.mem_append.mp mem with before | between
      · rw [side before]
      · simp only [List.mem_cons, colon, List.not_mem_nil, or_self] at between
    · rw [side behind]
      cases Ipv6.readSide false front <;> rfl

/-! ## Hosts -/

namespace Host

/-- A sign stands in what a host is decoded to. -/
theorem mem_decodeLossy_decode (sign : Idna.isSign c = true) (mem : c ∈ cs) :
    c ∈ Utf8.decodeLossy (Percent.decode cs) := by
  obtain ⟨percent, digit⟩ := Idna.of_isSign
    (P := fun c => c ≠ '%' ∧ Percent.hexValue? c = none) (by decide) sign
  have ascii := Idna.ascii_of_isSign sign
  exact Utf8.mem_decodeLossy ascii (Percent.mem_decode ascii percent digit mem)

/-- **Outside brackets no domain holds a sign.** -/
theorem ofDomain_of_isSign (sign : Idna.isSign c = true) (plain : bracketed? cs = none)
    (mem : c ∈ cs) : ofDomain cs = .error .internationalName := by
  have refused := Idna.toAscii?_eq_none_of_isSign sign (mem_decodeLossy_decode sign mem)
  rw [ofDomain, plain]
  simp only
  split
  · rfl
  · next read =>
    rw [refused] at read
    cases read

/-- A text in brackets that is no address is refused. -/
theorem ofBrackets_of_forall {inside : Option (List Char)}
    (none_address : ∀ text ∈ inside, Ipv6.parse? text = none) :
    ofBrackets inside = .error .ipv6Address := by
  cases inside with
  | none => rfl
  | some text => simp only [ofBrackets, Option.bind_some, none_address text rfl]

/-- What stands between brackets stands in the whole text. -/
theorem eq_of_bracketed? {inside : List Char} (read : bracketed? cs = some (some inside)) :
    cs = '[' :: (inside ++ [']']) := by
  unfold bracketed? at read
  split at read
  · next rest =>
    split at read
    · next cut =>
      obtain rfl := Option.some.inj (Option.some.inj read)
      rw [(eq_of_cutLast? cut).1]
    · cases read
  · cases read

/-- Whether a text is taken for one in brackets is seen at its front. -/
theorem bracketed?_eq_none_iff : bracketed? cs = none ↔ cs.head? ≠ some '[' := by
  unfold bracketed?
  split
  · next rest =>
    refine ⟨fun none => ?_, fun front => absurd rfl front⟩
    split at none <;> cases none
  · next other =>
    refine ⟨fun _ front => ?_, fun _ => rfl⟩
    obtain ⟨rest, rfl⟩ := List.head?_eq_some_iff.mp front
    exact other rest rfl

/-- **No domain holds an at sign**, and what is said of one that does depends on its front alone. -/
theorem ofDomain_of_at (mem : '@' ∈ cs) :
    ofDomain cs = .error (if cs.head? = some '[' then .ipv6Address else .internationalName) := by
  by_cases front : cs.head? = some '['
  · rw [if_pos front, ofDomain]
    cases read : bracketed? cs with
    | none => exact absurd front (bracketed?_eq_none_iff.mp read)
    | some inside =>
      refine ofBrackets_of_forall ?_
      rintro text ⟨rfl⟩
      rw [eq_of_bracketed? read] at mem
      have within : '@' ∈ text := by simpa using mem
      exact Ipv6.parse?_eq_none (by decide) (by decide) (by decide) within
  · rw [if_neg front]
    exact ofDomain_of_isSign (by decide) (bracketed?_eq_none_iff.mpr front) mem

end Host

end ProxyAutoConfig
