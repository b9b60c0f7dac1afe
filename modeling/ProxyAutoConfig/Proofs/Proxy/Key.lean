import ProxyAutoConfig.Proofs.Net.Ipv4
import ProxyAutoConfig.Proxy.Uri

/-!
# Keys of credentials

A key is a host and perhaps a port behind a colon, in one text. No two places share a key: a host
is either free of colons and brackets, so that the first colon ends it, or it stands between
brackets, so that the first closing one ends it, and the port behind it is known by its digits.

What a place is, is decided by its texts: the same name written for a scheme with rules and for
one without is the same host.
-/

namespace ProxyAutoConfig

open ProxyAutoConfig.Net ProxyAutoConfig.Text

/-- **A host's end can be seen**: nothing in it is a colon or an opening bracket, or all of it
stands between brackets. -/
inductive Host.Delimited : List Char → Prop
  | plain {cs : List Char} : ':' ∉ cs → '[' ∉ cs → Delimited cs
  | bracketed {inside : List Char} : ']' ∉ inside → Delimited ('[' :: (inside ++ [']']))

/-- Groups are written in hexadecimal digits and colons. -/
theorem Ipv6.eq_colon_or_digit_of_mem_groupsText {gs : List Nat} {c : Char}
    (mem : c ∈ Ipv6.groupsText gs) : c = ':' ∨ ∃ d < 16, c = Nat.digitChar d := by
  rcases mem_intercalate mem with rfl | ⟨part, hpart, hc⟩
  · exact .inl rfl
  · obtain ⟨n, _, rfl⟩ := List.mem_map.mp hpart
    exact .inr (exists_digitChar_of_mem (by decide) hc)

/-- So is an IPv6 address. -/
theorem Ipv6.eq_colon_or_digit_of_mem_text {bits : Ipv6} {c : Char} (mem : c ∈ Ipv6.text bits) :
    c = ':' ∨ ∃ d < 16, c = Nat.digitChar d := by
  simp only [Ipv6.text] at mem
  split at mem
  · exact Ipv6.eq_colon_or_digit_of_mem_groupsText mem
  · rcases List.mem_append.mp mem with mem | mem
    · rcases List.mem_append.mp mem with mem | mem
      · exact Ipv6.eq_colon_or_digit_of_mem_groupsText mem
      · left
        simpa using mem
    · exact Ipv6.eq_colon_or_digit_of_mem_groupsText mem

/-- **Every host is delimited.** -/
theorem Host.delimited_text (host : Host) : Host.Delimited host.text.toList := by
  cases host with
  | empty => exact .plain List.not_mem_nil List.not_mem_nil
  | named name isName =>
    have allowed := List.any_eq_false.mp isName.2
    exact .plain (fun mem => allowed _ mem (by decide)) (fun mem => allowed _ mem (by decide))
  | ipv4 bits =>
    rw [Host.text, String.toList_ofList]
    exact .plain (Ipv4.not_mem_text (by decide) (by decide)) (Ipv4.not_mem_text (by decide) (by decide))
  | ipv6 bits =>
    rw [Host.text, String.toList_ofList]
    refine .bracketed fun mem => ?_
    rcases Ipv6.eq_colon_or_digit_of_mem_text mem with h | ⟨d, hd, h⟩
    · cases h
    · exact (by decide : ∀ d < 16, Nat.digitChar d ≠ ']') d hd h.symm

/-- The host of a proxy is the text of its URL's host. -/
theorem ProxyUri.hostText?_eq (uri : ProxyUri) : uri.url.hostText? = some uri.host :=
  (Option.some_get uri.hosted).symm

/-- No port is written as nothing. -/
@[simp] theorem Url.toList_portText_none : (Url.portText none).toList = [] := rfl

/-- A port is written as a colon and its digits. -/
@[simp] theorem Url.toList_portText_some (port : UInt16) :
    (Url.portText (some port)).toList = ':' :: Nat.toDigits 10 port.toNat := by
  simp only [Url.portText, String.toList_append, Nat.toString_eq_ofList_toDigits,
    String.toList_ofList]
  rfl

/-- What is written for a port begins with a colon. -/
theorem Url.eq_colon_of_mem_head?_portText {port : Option UInt16} {c : Char}
    (mem : c ∈ (Url.portText port).toList.head?) : c = ':' := by
  cases port with
  | none => cases mem
  | some port =>
    rw [Url.toList_portText_some] at mem
    exact (Option.some.inj mem).symm

/-- A port is known by what is written for it. -/
theorem Url.portText_injective {p q : Option UInt16}
    (h : (Url.portText p).toList = (Url.portText q).toList) : p = q := by
  cases p with
  | none =>
    cases q with
    | none => rfl
    | some q => rw [Url.toList_portText_some] at h; cases h
  | some p =>
    cases q with
    | none => rw [Url.toList_portText_some] at h; cases h
    | some q =>
      rw [Url.toList_portText_some, Url.toList_portText_some] at h
      exact congrArg some (UInt16.toNat_inj.mp (toDigits_injective (List.cons.inj h).2))

/-- A host without brackets and one in brackets never begin alike. -/
theorem Host.plain_ne_bracketed {front inside back : List Char} {port : Option UInt16}
    (plain : '[' ∉ front) : front ++ (Url.portText port).toList ≠ '[' :: (inside ++ back) := by
  intro h
  cases front with
  | nil =>
    rw [List.nil_append] at h
    have first : '[' ∈ (Url.portText port).toList.head? := by rw [h]; rfl
    exact absurd (Url.eq_colon_of_mem_head?_portText first) (by decide)
  | cons c cs => exact plain (List.mem_cons.mpr (.inl (List.cons.inj h).1.symm))

/-- **A key tells its host and its port.** -/
theorem ProxyUri.key_injective {a b : String} (ha : Host.Delimited a.toList)
    (hb : Host.Delimited b.toList) {p q : Option UInt16}
    (h : ProxyUri.key a p = ProxyUri.key b q) : a = b ∧ p = q := by
  have chars := congrArg String.toList h
  simp only [ProxyUri.key, String.toList_append] at chars
  suffices same : a.toList = b.toList ∧ p = q from ⟨String.toList_inj.mp same.1, same.2⟩
  generalize a.toList = front, b.toList = front' at ha hb chars
  cases ha with
  | plain colon bracket =>
    cases hb with
    | plain colon' bracket' =>
      have free : ∀ {cs : List Char}, ':' ∉ cs → ∀ c ∈ cs, (c != ':') = true :=
        fun not c mem => bne_iff_ne.mpr fun e => not (e ▸ mem)
      have ends : ∀ {r : Option UInt16}, ∀ c ∈ (Url.portText r).toList.head?, (c != ':') = false :=
        fun c mem => by rw [Url.eq_colon_of_mem_head?_portText mem]; rfl
      obtain ⟨hosts, ports⟩ := append_inj_of_ends (free colon) ends (free colon') ends chars
      exact ⟨hosts, Url.portText_injective ports⟩
    | bracketed inside => exact absurd (by simpa using chars) (Host.plain_ne_bracketed bracket)
  | bracketed inside =>
    cases hb with
    | plain _ bracket => exact absurd (by simpa using chars.symm) (Host.plain_ne_bracketed bracket)
    | bracketed inside' =>
      simp only [List.cons_append, List.cons.injEq, true_and, List.append_assoc,
        List.nil_append] at chars ⊢
      have free : ∀ {cs : List Char}, ']' ∉ cs → ∀ c ∈ cs, (c != ']') = true :=
        fun not c mem => bne_iff_ne.mpr fun e => not (e ▸ mem)
      have ends : ∀ {cs : List Char}, ∀ c ∈ (']' :: cs).head?, (c != ']') = false :=
        fun c mem => by rw [← Option.some.inj mem]; rfl
      obtain ⟨hosts, ports⟩ := append_inj_of_ends (free inside) ends (free inside') ends chars
      exact ⟨congrArg (· ++ [']']) hosts, Url.portText_injective (List.cons.inj ports).2⟩

end ProxyAutoConfig
