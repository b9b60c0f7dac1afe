import ProxyAutoConfig.Proofs.Proxy.Carrying
import ProxyAutoConfig.Proofs.Redaction
import ProxyAutoConfig.Proofs.Secrecy.Password
import ProxyAutoConfig.Proxy.Candidate

/-!
# Addresses that look alike

Two texts of URLs look alike when they differ in the password of a login alone, and in nothing but
letters and digits there. They are read alike: as URLs that differ in their passwords, or with one
and the same flaw. Hiding the password leaves one text of both.

The same goes for the addresses of proxies, for what is put into them, and for the candidates of a
decision.
-/

namespace ProxyAutoConfig

open ProxyAutoConfig.Text

namespace Url

/-- **URLs that look alike**: they differ in nothing but passwords that look alike. -/
inductive Alike : Url → Url → Prop
  | passwords (url : Url) {p q : Option String} :
      Option.Rel (fun s t => Text.Alike s.toList t.toList) p q →
      Alike { url with password := p } { url with password := q }

theorem Alike.refl (url : Url) : url.Alike url := by
  refine .passwords url ?_
  cases url.password with
  | none => exact .none
  | some password => exact .some (.refl _)

variable {a b : Url}

theorem Alike.hostText?_eq (alike : a.Alike b) : a.hostText? = b.hostText? := by
  obtain ⟨url, _⟩ := alike
  rfl

theorem Alike.withoutUserinfo_eq (alike : a.Alike b) : a.withoutUserinfo = b.withoutUserinfo := by
  obtain ⟨url, _⟩ := alike
  rfl

/-- **They carry credentials that look alike**, or none. -/
theorem Alike.credential? (alike : a.Alike b) :
    Option.Rel Credential.Alike a.credential? b.credential? := by
  obtain ⟨url, passwords⟩ := alike
  rw [Url.credential?, Url.credential?]
  cases passwords with
  | none => exact .none
  | @some p q related =>
    have decoded := related.decodePart?
    simp only [Option.bind_some]
    generalize decodePart? p = s, decodePart? q = t at decoded
    cases decoded with
    | none => exact .none
    | @some s t decoded =>
      cases decodePart? url.username with
      | none => exact .none
      | some username =>
        have made := Credential.ofParts_alike username decoded
        simp only
        generalize Credential.ofParts username s = x, Credential.ofParts username t = y at made
        cases made with
        | ok credentials => exact .some credentials
        | error flaw => exact .none

/-- **Texts that differ in the password of a login alone**, where both passwords are words of one
length. -/
inductive LoginAlike : String → String → Prop
  | same (text : String) : LoginAlike text text
  | words {scheme user word word' : List Char} : IsLogin scheme user → IsWord word → IsWord word' →
      word.length = word'.length → ∀ place,
      LoginAlike (loginText scheme user word place) (loginText scheme user word' place)

/-- An authority goes on through a word. -/
theorem goesOn_of_isWord {word : List Char} (isWord : IsWord word) (special : Bool) :
    ∀ c ∈ word, endsAuthority special c = false := by
  cases special <;> exact isWord.forall_mem (P := fun c => endsAuthority _ c = false) (by decide)

/-- A word is a password, unless it is empty. -/
theorem isSecret_of_isWord (scheme : List Char) {word : List Char} (isWord : IsWord word)
    (nonempty : word ≠ []) : IsSecret scheme word ∧ kept word = word := by
  have whole : kept word = word := kept_of_visible
    (isWord.forall_mem (P := fun c => isPadding c = false) (by decide))
  exact ⟨⟨by rwa [whole], goesOn_of_isWord isWord _⟩, whole⟩

/-- **What is shown of such texts is the same.** -/
theorem LoginAlike.uriText_eq {s t : String} (alike : LoginAlike s t) :
    Redaction.uriText s = Redaction.uriText t := by
  cases alike with
  | same => rfl
  | words login isWord isWord' length place =>
    exact Redaction.uriText_loginText_eq login place (goesOn_of_isWord isWord _)
      (goesOn_of_isWord isWord' _) length

/-- **They are read as URLs that look alike, or fail to be URLs in the same way.** -/
theorem parse_alike {s t : String} (alike : LoginAlike s t) :
    Outcome.Alike Alike (parse s) (parse t) := by
  cases alike with
  | same => exact .refl .refl _
  | @words scheme user word word' login isWord isWord' length place =>
    by_cases empty : word = []
    · subst empty
      obtain rfl := List.length_eq_zero_iff.mp length.symm
      exact .refl .refl _
    · have nonempty : word' ≠ [] := fun nothing =>
        empty (List.length_eq_zero_iff.mp (length.trans (congrArg List.length nothing)))
      obtain ⟨isSecret, whole⟩ := isSecret_of_isWord scheme isWord empty
      obtain ⟨isSecret', whole'⟩ := isSecret_of_isWord scheme isWord' nonempty
      obtain ⟨outcome, extra, _, each⟩ := exists_parse_loginText login place
      rw [each word isSecret, each word' isSecret', whole, whole']
      cases outcome with
      | error flaw => exact .error flaw
      | ok url =>
        refine .ok (.passwords url (.some ?_))
        exact (Text.Alike.words isWord isWord' length extra).encodeUserinfo

end Url

/-! ## Addresses of proxies -/

namespace ProxyUri

/-- **Addresses of proxies that look alike.** -/
def Alike (a b : ProxyUri) : Prop :=
  a.url.Alike b.url

theorem Alike.refl (uri : ProxyUri) : uri.Alike uri :=
  Url.Alike.refl uri.url

variable {a b : ProxyUri}

theorem Alike.host_eq (alike : a.Alike b) : a.host = b.host := by
  have hosts := Url.Alike.hostText?_eq alike
  simp only [host, hosts]

/-- And they have one key. -/
theorem Alike.authority_eq (alike : a.Alike b) : a.authority = b.authority := by
  have ports : a.port? = b.port? := by
    obtain ⟨url, ha, hb⟩ := a
    obtain ⟨url', ha', hb'⟩ := b
    obtain ⟨url, _⟩ := alike
    rfl
  rw [authority, authority, alike.host_eq, ports]

/-- **They are shown in the same way.** -/
theorem Alike.redacted_eq (alike : a.Alike b) : a.redacted = b.redacted := by
  have hosts := alike.host_eq
  obtain ⟨url, ha, hb⟩ := a
  obtain ⟨url', ha', hb'⟩ := b
  obtain ⟨url, passwords⟩ := alike
  unfold redacted render
  rw [hosts]
  cases passwords with
  | none => rfl
  | some related => simp only [scheme, userinfoText, related.mask_eq]

/-- URLs that look alike are addresses of proxies that look alike, or none. -/
theorem ofUrl?_alike {a b : Url} (alike : a.Alike b) :
    Option.Rel Alike (ofUrl? a) (ofUrl? b) := by
  have hosts := alike.hostText?_eq
  have hierarchy : a.isOpaque = b.isOpaque := by
    obtain ⟨url, _⟩ := alike
    rfl
  rw [ofUrl?, ofUrl?]
  by_cases both : b.isOpaque = false ∧ b.hostText?.isSome = true
  · rw [dif_pos both, dif_pos (by rw [hierarchy, hosts]; exact both)]
    exact .some alike
  · rw [dif_neg both, dif_neg (by rw [hierarchy, hosts]; exact both)]
    exact .none

/-- **Texts that look alike are read as addresses that look alike, or are refused in the same
way.** -/
theorem parse_alike {s t : String} (alike : Url.LoginAlike s t) :
    Outcome.Alike Alike (parse s) (parse t) := by
  have read := Url.parse_alike alike
  rw [parse, parse, alike.uriText_eq]
  generalize Url.parse s = x, Url.parse t = y at read
  cases read with
  | error flaw => exact .error _
  | @ok a b urls =>
    have uris := ofUrl?_alike urls
    simp only
    generalize ofUrl? a = u, ofUrl? b = v at uris
    cases uris with
    | none => exact .error _
    | some related => exact .ok related

/-- **Credentials that look alike make addresses that look alike**, or are refused in the same
way. -/
theorem withCredential_alike (uri : ProxyUri) {c d : Credential} (alike : c.Alike d) :
    Outcome.Alike Alike (uri.withCredential c) (uri.withCredential d) := by
  rw [withCredential, withCredential, setCredential_eq, setCredential_eq]
  by_cases file : uri.scheme = "file"
  · simp only [if_pos file]
    exact .error _
  · simp only [if_neg file]
    refine .ok ?_
    show Url.Alike { uri.url with
      username := Url.encodeUserinfo c.username.toList
      password := some (Url.encodeUserinfo c.password.toList) } (uri.carrying d).url
    rw [alike.username]
    exact .passwords
      { uri.url with username := Url.encodeUserinfo d.username.toList }
      (.some alike.password.encodeUserinfo)

end ProxyUri

/-! ## Candidates -/

namespace Candidate

/-- **Candidates that look alike**: they differ in nothing but the passwords in their addresses. -/
structure Alike (c d : Candidate) : Prop where
  mode : c.mode = d.mode
  address : c.address = d.address
  target : Option.Rel ProxyUri.Alike c.target d.target

theorem Alike.refl (c : Candidate) : c.Alike c := by
  refine ⟨rfl, rfl, ?_⟩
  cases c.target with
  | none => exact .none
  | some uri => exact .some (.refl uri)

variable {c d : Candidate}

/-- Their proxies look alike. -/
theorem Alike.uri? (alike : c.Alike d) : Option.Rel ProxyUri.Alike c.uri? d.uri? := by
  rw [Candidate.uri?, Candidate.uri?, alike.mode]
  split
  · exact .none
  · exact alike.target

/-- **They are printed in the same way.** -/
theorem Alike.redacted_eq (alike : c.Alike d) : c.redacted = d.redacted := by
  have uris := alike.uri?
  rw [redacted, redacted, render, render, alike.mode]
  generalize c.uri? = u, d.uri? = v at uris
  cases uris with
  | none => rfl
  | some related => simp only [related.redacted_eq]

end Candidate

end ProxyAutoConfig
