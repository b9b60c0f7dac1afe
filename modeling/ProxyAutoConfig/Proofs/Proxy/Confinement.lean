import ProxyAutoConfig.Proofs.Outcome
import ProxyAutoConfig.Proofs.Proxy.Association
import ProxyAutoConfig.Proofs.Proxy.Declared
import ProxyAutoConfig.Proofs.Proxy.Key

/-!
# Credentials stay where they were declared

A credential goes to no proxy but the one that it was declared for. Looking a proxy up compares
keys, which are texts; because a key tells its host and its port, whatever is found was declared
for the proxy's own host and port, or for another name of the machine itself at the same port.

Associating the candidates of a decision changes nothing else: a candidate is left as the script
wrote it, or its proxy gets a credential that was declared for its place.
-/

namespace ProxyAutoConfig

/-- The same host, and the same port or none. -/
def ProxyUri.SamePlace (a b : ProxyUri) : Prop :=
  a.host = b.host ∧ a.port? = b.port?

/-- Two names of the machine itself, and the same port or none. -/
def ProxyUri.SameLocalPort (a b : ProxyUri) : Prop :=
  Localhost.isLocal a.url = true ∧ Localhost.isLocal b.url = true ∧ a.port? = b.port?

namespace CredentialTable

/-- **An authority declares a credential for a proxy**: it stands at `place`, carries the
credential and is the last of the list at its place, and `place` is the proxy's own, up to the
names of the machine itself. -/
structure DeclaredFor (authorities : List String) (uri : ProxyUri) (credential : Credential)
    (authority : String) (place : ProxyUri) : Prop where
  read : ProxyUri.parse authority = .ok place
  carries : place.credential? = some credential
  last : DeclaredLast authorities place.authority authority credential
  near : place.SamePlace uri ∨ place.SameLocalPort uri

/-- **What association may do to a candidate**: leave it as it is, or embed a credential that is
declared for its proxy and leave the proxy where it is. -/
inductive Associated (authorities : List String) (before : Candidate) : Candidate → Prop
  | kept : Associated authorities before before
  | embedded {uri given place : ProxyUri} {credential : Credential} {authority : String} :
      before.uri? = some uri → DeclaredFor authorities uri credential authority place →
      uri.withCredential credential = .ok given → given.SamePlace uri →
      Associated authorities before { before with target := some given }

end CredentialTable

/-! ## Places -/

/-- The host of a proxy is delimited. -/
theorem ProxyUri.delimited_host (uri : ProxyUri) : Host.Delimited uri.host.toList := by
  have text := uri.hostText?_eq
  unfold Url.hostText? at text
  split at text
  · cases text
  · cases text
  · next host _ _ => exact Option.some.inj text ▸ host.delimited_text

/-- **Proxies with one key stand at one place.** -/
theorem ProxyUri.samePlace_of_authority_eq {a b : ProxyUri} (h : a.authority = b.authority) :
    a.SamePlace b :=
  ProxyUri.key_injective a.delimited_host b.delimited_host h

/-- A name of the machine itself is delimited. -/
theorem Localhost.delimited_of_mem_names {name : String} (mem : name ∈ Localhost.names) :
    Host.Delimited name.toList := by
  have plain := (by decide : ∀ name ∈ Localhost.names, ':' ∉ name.toList ∧ '[' ∉ name.toList)
  exact .plain (plain name mem).1 (plain name mem).2

/-- A proxy with such a name is local. -/
theorem Localhost.isLocal_of_host_mem {uri : ProxyUri} (mem : uri.host ∈ Localhost.names) :
    Localhost.isLocal uri.url = true := by
  rw [Localhost.isLocal, uri.hostText?_eq, Option.any_some]
  exact (by decide : ∀ name ∈ Localhost.names, Localhost.isName name = true) _ mem

/-- Embedding a credential leaves a proxy at its place. -/
theorem ProxyUri.samePlace_of_withCredential {uri given : ProxyUri} {credential : Credential}
    (embedded : uri.withCredential credential = .ok given) : given.SamePlace uri := by
  obtain ⟨_, rfl⟩ := ProxyUri.withCredential_eq_ok.mp embedded
  exact ⟨ProxyUri.host_carrying, ProxyUri.port?_carrying⟩

/-! ## Looking up and associating -/

namespace CredentialTable

variable {authorities : List String} {table : CredentialTable}

/-- What stands under a key was declared at a place with this key. -/
theorem exists_place_of_get? (accepted : ofAuthorities authorities = .ok table) {key : String}
    {credential : Credential} (found : table.get? key = some credential) :
    ∃ authority place, ProxyUri.parse authority = .ok place ∧ place.authority = key ∧
      place.credential? = some credential ∧
      DeclaredLast authorities place.authority authority credential := by
  obtain ⟨authority, last⟩ := (get?_ofAuthorities accepted).mp found
  obtain ⟨_, _, _, declares, _⟩ := id last
  obtain ⟨place, read, rfl, carries⟩ := parseAuthority_eq_ok.mp declares
  exact ⟨authority, place, read, rfl, carries, last⟩

/-- **What is found for a proxy was declared for it.** -/
theorem declaredFor_of_resolve? (accepted : ofAuthorities authorities = .ok table)
    {uri : ProxyUri} {credential : Credential} (found : table.resolve? uri = some credential) :
    ∃ authority place, DeclaredFor authorities uri credential authority place := by
  unfold resolve? at found
  cases exact : table.get? uri.authority with
  | some c =>
    rw [exact] at found
    cases found
    obtain ⟨authority, place, read, same, carries, last⟩ := exists_place_of_get? accepted exact
    exact ⟨authority, place, read, carries, last,
      .inl (ProxyUri.samePlace_of_authority_eq same)⟩
  | none =>
    simp only [exact] at found
    split at found
    · next local_uri =>
      obtain ⟨name, mem, probe⟩ := List.exists_of_findSome?_eq_some found
      obtain ⟨authority, place, read, same, carries, last⟩ := exists_place_of_get? accepted probe
      obtain ⟨host, port⟩ := ProxyUri.key_injective place.delimited_host
        (Localhost.delimited_of_mem_names mem) same
      exact ⟨authority, place, read, carries, last,
        .inr ⟨Localhost.isLocal_of_host_mem (host ▸ mem), local_uri, port⟩⟩
    · cases found

/-- A candidate is left alone, or gets a credential that was declared for its proxy. -/
theorem associated_of_attach (accepted : ofAuthorities authorities = .ok table)
    {before after : Candidate} (attached : table.attach before = .ok after) :
    Associated authorities before after := by
  rcases attach_eq_ok.mp attached with ⟨_, rfl⟩ | ⟨uri, credential, target, found, notFile, rfl⟩
  · exact .kept
  · obtain ⟨authority, place, declared⟩ := declaredFor_of_resolve? accepted found
    have embedded : uri.withCredential credential = .ok (uri.carrying credential) :=
      ProxyUri.withCredential_eq_ok.mpr ⟨notFile, rfl⟩
    exact .embedded target declared embedded (ProxyUri.samePlace_of_withCredential embedded)

/-- **No credential reaches a proxy that it was not declared for.** What a table of declared
credentials gives for a proxy was declared by the last authority of the list at that authority's
place, and the place is the proxy's own host and port, or both are names of the machine itself at
one port. So in the candidates of any decision every credential is the one that the script wrote
there itself, or one that was declared for the candidate's place. -/
theorem credential_confined (accepted : ofAuthorities authorities = .ok table) :
    (∀ uri credential, table.resolve? uri = some credential →
      ∃ authority place, DeclaredFor authorities uri credential authority place) ∧
    (∀ candidates associated, table.associate candidates = .ok associated →
      List.Forall₂ (Associated authorities) candidates associated) :=
  ⟨fun _ _ found => declaredFor_of_resolve? accepted found,
    fun _ _ done => (Outcome.mapM_eq_ok.mp done).imp fun _ _ => associated_of_attach accepted⟩

/-- So a credential that is declared for one name of the machine reaches another, at its port. -/
theorem credential_confined_localhost :
    ∃ table uri credential, ofAuthorities ["socks://u:p@127.0.0.1:1"] = .ok table ∧
      ProxyUri.parse "socks://localhost:1" = .ok uri ∧ table.resolve? uri = some credential ∧
      ∃ authority place, DeclaredFor ["socks://u:p@127.0.0.1:1"] uri credential authority place := by
  have accepted : ofAuthorities ["socks://u:p@127.0.0.1:1"] =
      .ok ⟨[("127.0.0.1:1", ⟨"u", "p", by decide⟩)], by decide⟩ := rfl
  have read : ProxyUri.parse "socks://localhost:1" = .ok
      ⟨⟨"socks", "", none, some (.named "localhost" ⟨by decide, by decide⟩), some 1,
        .segments [], none, none⟩, rfl, rfl⟩ := rfl
  have found : resolve? ⟨[("127.0.0.1:1", ⟨"u", "p", by decide⟩)], by decide⟩
      ⟨⟨"socks", "", none, some (.named "localhost" ⟨by decide, by decide⟩), some 1,
        .segments [], none, none⟩, rfl, rfl⟩ = some ⟨"u", "p", by decide⟩ := by decide
  exact ⟨_, _, _, accepted, read, found, (credential_confined accepted).1 _ _ found⟩

end CredentialTable

end ProxyAutoConfig
