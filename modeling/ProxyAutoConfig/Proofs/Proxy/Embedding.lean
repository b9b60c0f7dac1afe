import ProxyAutoConfig.Proofs.Credential
import ProxyAutoConfig.Proofs.Outcome
import ProxyAutoConfig.Proofs.Proxy.Association
import ProxyAutoConfig.Proofs.Proxy.Declared
import ProxyAutoConfig.Proofs.Text.Percent

/-!
# Reading an embedded credential

A credential is embedded in encoded form and read back decoded. The two are inverse to each other
for all characters but the percent sign, which is embedded as it is: a credential in which two
hexadecimal digits follow a percent sign is read back as another one, or as none.
-/

namespace ProxyAutoConfig

open ProxyAutoConfig.Text

/-- **No part of a credential looks encoded**: neither holds an escape. -/
def Credential.IsEscapeFree (credential : Credential) : Prop :=
  Percent.holdsEscape credential.username.toList = false ∧
    Percent.holdsEscape credential.password.toList = false

/-- A URL carries a credential when its user name and its password are decoded to the parts. -/
theorem Url.credential?_eq_some {url : Url} {credential : Credential} :
    url.credential? = some credential ↔
      Url.decodePart? url.username = some credential.username ∧
        url.password.bind Url.decodePart? = some credential.password := by
  unfold Url.credential?
  cases url.password.bind Url.decodePart? with
  | none => simp only [reduceCtorEq, and_false]
  | some password =>
    cases Url.decodePart? url.username with
    | none => simp only [reduceCtorEq, false_and]
    | some username =>
      have made : (Credential.ofParts username password).toOption = some credential ↔
          Credential.ofParts username password = .ok credential := by
        cases Credential.ofParts username password <;>
          simp only [Except.toOption, reduceCtorEq, Option.some.injEq, Except.ok.injEq]
      rw [made, Credential.ofParts_eq_ok, Option.some.injEq, Option.some.injEq]
      exact and_congr eq_comm eq_comm

/-- A part comes back exactly when it has no escape. -/
theorem Url.decodePart?_encodeUserinfo {part : String} :
    Url.decodePart? (Url.encodeUserinfo part.toList) = some part ↔
      Percent.holdsEscape part.toList = false := by
  rw [← Percent.decodeText_encode Percent.keepsEscapes_userinfo, Url.decodePart?,
    Url.encodeUserinfo, String.toList_ofList]
  split
  · next cs decoded =>
    rw [decoded, Option.some.injEq, Except.ok.injEq, ← String.toList_inj, String.toList_ofList]
  · next decoded => simp only [decoded, reduceCtorEq]

/-- **A credential is read back from the proxy that carries it** exactly when no part of it looks
encoded. -/
theorem ProxyUri.credential?_carrying {uri : ProxyUri} {credential : Credential} :
    (uri.carrying credential).credential? = some credential ↔ credential.IsEscapeFree := by
  rw [ProxyUri.credential?, Url.credential?_eq_some]
  exact and_congr Url.decodePart?_encodeUserinfo Url.decodePart?_encodeUserinfo

/-! ## Association -/

namespace CredentialTable

variable {table : CredentialTable}

/-- **Association lets a credential be read back**: the candidate whose proxy the table has a
credential for gives this credential, unless a part of it looks encoded. -/
def ReadsBack (table : CredentialTable) (before after : Candidate) : Prop :=
  ∀ uri credential, before.uri? = some uri → table.resolve? uri = some credential →
    ∃ given, after.uri? = some given ∧
      (given.credential? = some credential ↔ credential.IsEscapeFree)

/-- A candidate that is no file is associated so that its credential can be read back. -/
theorem exists_attach_readsBack {candidate : Candidate}
    (notFile : ∀ uri, candidate.uri? = some uri → uri.scheme ≠ "file") :
    ∃ after, table.attach candidate = .ok after ∧ table.ReadsBack candidate after := by
  rcases table.found_or_missing candidate with ⟨uri, c, target, found⟩ | missing
  · refine ⟨_, attach_of_resolve? target (notFile uri target) found, fun other c' same found' => ?_⟩
    obtain rfl := Option.some.inj (target.symm.trans same)
    obtain rfl := Option.some.inj (found.symm.trans found')
    exact ⟨_, Candidate.uri?_of_target target, ProxyUri.credential?_carrying⟩
  · refine ⟨candidate, attach_of_not_found missing, fun uri c target found => ?_⟩
    rw [missing uri target] at found
    cases found

end CredentialTable

/-- **Embedding a credential and reading it back are inverse where nothing looks encoded.** Every
proxy that is no file takes every credential, and gives it back exactly when neither its user name
nor its password holds a percent sign before two hexadecimal digits. The same holds of the
candidates of a decision and the credentials that a table has for them. -/
theorem credential_read_back (uri : ProxyUri) (credential : Credential) (table : CredentialTable)
    (candidates : List Candidate) (notFile : uri.scheme ≠ "file")
    (notFiles : ∀ candidate ∈ candidates, ∀ uri, candidate.uri? = some uri → uri.scheme ≠ "file") :
    (∃ given, uri.withCredential credential = .ok given ∧
      (given.credential? = some credential ↔ credential.IsEscapeFree)) ∧
    (∃ associated, table.associate candidates = .ok associated ∧
      List.Forall₂ table.ReadsBack candidates associated) := by
  constructor
  · exact ⟨_, ProxyUri.withCredential_eq_ok.mpr ⟨notFile, rfl⟩, ProxyUri.credential?_carrying⟩
  · exact Outcome.exists_mapM_eq_ok fun candidate mem =>
      CredentialTable.exists_attach_readsBack (notFiles candidate mem)

/-- Signs that a user name must not hold come back too, and so does a percent sign before one digit
only. -/
theorem credential_read_back_reserved :
    ∃ (uri given given' : ProxyUri) (credential : Credential) (table : CredentialTable)
      (before after : Candidate),
      credential.username = "u@é" ∧ credential.password = "p:%4" ∧
        uri.withCredential credential = .ok given ∧ given.credential? = some credential ∧
        before.uri? = some uri ∧ table.associate [before] = .ok [after] ∧
        after.uri? = some given' ∧ given'.credential? = some credential := by
  obtain ⟨uri, notFile, key⟩ : ∃ uri : ProxyUri, uri.scheme ≠ "file" ∧ uri.authority = "h:1" :=
    ⟨⟨⟨"http", "", none, some (.named "h" ⟨by decide, by decide⟩), some 1, .segments [""], none,
      none⟩, rfl, rfl⟩, by decide, by decide⟩
  obtain ⟨credential, hu, hp⟩ : ∃ c : Credential, c.username = "u@é" ∧ c.password = "p:%4" :=
    ⟨⟨"u@é", "p:%4", by decide⟩, rfl, rfl⟩
  have escapeFree : credential.IsEscapeFree := by
    rw [Credential.IsEscapeFree, hu, hp]
    decide
  have target : (⟨.proxy, "http://h:1", some uri⟩ : Candidate).uri? = some uri := rfl
  have found : (CredentialTable.empty.insert "h:1" credential).resolve? uri = some credential := by
    rw [CredentialTable.resolve?, key, CredentialTable.get?_insert_self]
  have notFiles : ∀ candidate ∈ [(⟨.proxy, "http://h:1", some uri⟩ : Candidate)], ∀ other,
      candidate.uri? = some other → other.scheme ≠ "file" := by
    intro candidate mem other same
    obtain rfl := List.mem_singleton.mp mem
    exact Option.some.inj (target.symm.trans same) ▸ notFile
  obtain ⟨⟨given, embedded, reads⟩, associated, done, each⟩ :=
    credential_read_back uri credential (CredentialTable.empty.insert "h:1" credential) _ notFile
      notFiles
  cases each with
  | @cons _ after _ _ here behind =>
    cases behind
    obtain ⟨given', target', reads'⟩ := here uri credential target found
    exact ⟨uri, given, given', credential, _, _, after, hu, hp, embedded, reads.mpr escapeFree,
      target, done, target', reads'.mpr escapeFree⟩

/-- A password that looks encoded is read back as another one. -/
theorem credential_not_read_back :
    ¬ ∀ (uri : ProxyUri) (credential : Credential), uri.scheme ≠ "file" →
      ∃ given, uri.withCredential credential = .ok given ∧
        given.credential? = some credential := by
  intro all
  obtain ⟨given, embedded, same⟩ := all
    ⟨⟨"http", "", none, some (.named "h" ⟨by decide, by decide⟩), some 1, .segments [""], none,
      none⟩, rfl, rfl⟩ ⟨"u", "p%41", by decide⟩ (by decide)
  obtain ⟨_, rfl⟩ := ProxyUri.withCredential_eq_ok.mp embedded
  have looksEncoded := (ProxyUri.credential?_carrying.mp same).2
  exact absurd looksEncoded (by decide)

end ProxyAutoConfig
