import ProxyAutoConfig.Proofs.Proxy.Confinement

/-!
# Names of the machine itself

For a local proxy the table is probed under the proxy's own host and then under each name of the
machine, all with the proxy's port; the first probe that finds a credential decides
(`resolve?_of_isLocal`). A probe compares texts, whereas a proxy is local in any case of letters.
So a credential that is declared for a name of the machine is found from every other name, if it is
declared under the name as it stands in the list of names. One that is declared under another
spelling, such as a scheme without rules for hosts lets through, is found from this spelling alone.
-/

namespace ProxyAutoConfig

/-- A proxy is local by its host alone. -/
theorem ProxyUri.isLocal_eq (uri : ProxyUri) :
    Localhost.isLocal uri.url = Localhost.isName uri.host := by
  rw [Localhost.isLocal, uri.hostText?_eq, Option.any_some]

namespace CredentialTable

variable {authorities : List String} {table : CredentialTable} {uri : ProxyUri}

/-! ## What is declared -/

/-- Some authority declares a credential under a key. -/
def Declares (authorities : List String) (key : String) : Prop :=
  ∃ authority ∈ authorities, ∃ credential, parseAuthority authority = .ok (key, credential)

/-- **A table holds nothing under a key that no authority has.** -/
theorem get?_ofAuthorities_eq_none (accepted : ofAuthorities authorities = .ok table)
    {key : String} : table.get? key = none ↔ ¬ Declares authorities key := by
  have nothing : empty.get? key = none := rfl
  rw [get?_declare accepted, nothing, Option.or_none, List.findSome?_eq_none_iff]
  constructor
  · rintro none_declares ⟨authority, mem, credential, declares⟩
    have missed := none_declares authority (List.mem_reverse.mpr mem)
    rw [declaredBy?_eq_some.mpr declares] at missed
    cases missed
  · intro undeclared authority mem
    refine declaredBy?_eq_none.mpr fun credential declares => undeclared ?_
    exact ⟨authority, List.mem_reverse.mp mem, credential, declares⟩

/-! ## Probing -/

/-- **A local proxy is looked up under its own host, and then under each name of the machine.** -/
theorem resolve?_of_isLocal (own : Localhost.isLocal uri.url = true) :
    table.resolve? uri =
      (uri.host :: Localhost.names).findSome? fun name =>
        table.get? (ProxyUri.key name uri.port?) := by
  rw [resolve?, List.findSome?_cons, if_pos own, ← ProxyUri.authority]
  cases table.get? uri.authority <;> rfl

/-- The hosts that a local proxy is looked up under are delimited. -/
theorem delimited_of_mem_probes {name : String} (mem : name ∈ uri.host :: Localhost.names) :
    Host.Delimited name.toList := by
  rcases List.mem_cons.mp mem with rfl | known
  · exact uri.delimited_host
  · exact Localhost.delimited_of_mem_names known

/-- And a proxy at one of them is local. -/
theorem isLocal_of_host_mem_probes (own : Localhost.isLocal uri.url = true) {place : ProxyUri}
    (mem : place.host ∈ uri.host :: Localhost.names) : Localhost.isLocal place.url = true := by
  rcases List.mem_cons.mp mem with same | known
  · rw [place.isLocal_eq, same, ← uri.isLocal_eq, own]
  · exact Localhost.isLocal_of_host_mem known

/-! ## One name at a port -/

/-- **The only local authority at a port**: no other authority of the list is local and has this
port. -/
structure OnlyLocal (authorities : List String) (port : Option UInt16) (authority : String)
    (place : ProxyUri) (credential : Credential) : Prop where
  read : ProxyUri.parse authority = .ok place
  carries : place.credential? = some credential
  isLocal : Localhost.isLocal place.url = true
  port_eq : place.port? = port
  only : ∃ before after, authorities = before ++ authority :: after ∧
    ∀ other ∈ before ++ after, ∀ uri, ProxyUri.parse other = .ok uri →
      Localhost.isLocal uri.url = true → uri.port? ≠ port

variable {authority name : String} {place : ProxyUri} {credential : Credential}

/-- **A probe for a local proxy finds the credential of the only local authority at its port**, and
only under the host that this authority has. -/
theorem OnlyLocal.get?_eq (only : OnlyLocal authorities uri.port? authority place credential)
    (accepted : ofAuthorities authorities = .ok table) (own : Localhost.isLocal uri.url = true)
    (mem : name ∈ uri.host :: Localhost.names) :
    table.get? (ProxyUri.key name uri.port?) =
      if place.host = name then some credential else none := by
  obtain ⟨read, carries, _, port_eq, before, after, rfl, others⟩ := only
  -- Whoever declares something under the probed key is local, and has the proxy's port.
  have alone : ∀ other ∈ before ++ after, ∀ c,
      parseAuthority other ≠ .ok (ProxyUri.key name uri.port?, c) := by
    intro other listed c declares
    obtain ⟨there, readThere, same, _⟩ := parseAuthority_eq_ok.mp declares
    obtain ⟨rfl, port⟩ :=
      ProxyUri.key_injective there.delimited_host (delimited_of_mem_probes mem) same
    exact others other listed there readThere (isLocal_of_host_mem_probes own mem) port
  split
  · next here =>
    have key : place.authority = ProxyUri.key name uri.port? := by
      rw [ProxyUri.authority, here, port_eq]
    exact (get?_ofAuthorities accepted).mpr ⟨authority, before, after, rfl,
      parseAuthority_eq_ok.mpr ⟨place, read, key, carries⟩,
      fun later behind => alone later (List.mem_append_right _ behind)⟩
  · next elsewhere =>
    rw [get?_ofAuthorities_eq_none accepted]
    rintro ⟨other, listed, c, declares⟩
    rcases List.mem_append.mp listed with front | back
    · exact alone other (List.mem_append_left _ front) c declares
    · rcases List.mem_cons.mp back with rfl | behind
      · obtain ⟨there, readThere, same, _⟩ := parseAuthority_eq_ok.mp declares
        obtain rfl := Except.ok.inj (read.symm.trans readThere)
        exact elsewhere (ProxyUri.key_injective place.delimited_host
          (delimited_of_mem_probes mem) same).1
      · exact alone other (List.mem_append_right _ behind) c declares

/-- So a local proxy gets this credential if the authority's host is one that is probed. -/
theorem OnlyLocal.resolve?_eq (only : OnlyLocal authorities uri.port? authority place credential)
    (accepted : ofAuthorities authorities = .ok table) (own : Localhost.isLocal uri.url = true) :
    table.resolve? uri =
      if place.host ∈ uri.host :: Localhost.names then some credential else none := by
  have probe : ∀ name ∈ uri.host :: Localhost.names,
      table.get? (ProxyUri.key name uri.port?) =
        if place.host = name then some credential else none :=
    fun name mem => only.get?_eq accepted own mem
  rw [resolve?_of_isLocal own]
  split
  · next mem =>
    cases found : (uri.host :: Localhost.names).findSome? fun name =>
        table.get? (ProxyUri.key name uri.port?) with
    | none =>
      have missed := List.findSome?_eq_none_iff.mp found _ mem
      rw [probe _ mem, if_pos rfl] at missed
      cases missed
    | some c =>
      obtain ⟨name, probed, held⟩ := List.exists_of_findSome?_eq_some found
      rw [probe name probed] at held
      split at held
      · exact held.symm
      · cases held
  · next absent =>
    refine List.findSome?_eq_none_iff.mpr fun name mem => ?_
    have other : place.host ≠ name := fun same => absent (same ▸ mem)
    rw [probe name mem, if_neg other]

/-! ## Several names at a port -/

/-- **Without a credential of its own, a local proxy gets that of the first name of the machine that
has one.** -/
theorem resolve?_eq_some_of_not_declares (accepted : ofAuthorities authorities = .ok table)
    (own : Localhost.isLocal uri.url = true) (undeclared : ¬ Declares authorities uri.authority) :
    table.resolve? uri = some credential ↔
      ∃ before name after authority, Localhost.names = before ++ name :: after ∧
        DeclaredLast authorities (ProxyUri.key name uri.port?) authority credential ∧
        ∀ earlier ∈ before, ¬ Declares authorities (ProxyUri.key earlier uri.port?) := by
  have missed := (get?_ofAuthorities_eq_none accepted).mpr undeclared
  rw [resolve?_of_isLocal own, List.findSome?_cons, ← ProxyUri.authority, missed,
    List.findSome?_eq_some_iff]
  simp only [get?_ofAuthorities accepted, get?_ofAuthorities_eq_none accepted]
  constructor
  · rintro ⟨before, name, after, split, ⟨authority, last⟩, earlier⟩
    exact ⟨before, name, after, authority, split, last, earlier⟩
  · rintro ⟨before, name, after, authority, split, last, earlier⟩
    exact ⟨before, name, after, split, ⟨authority, last⟩, earlier⟩

/-- **How far the names of the machine stand for each other.** Where one authority is the only local
one at a local proxy's port, the proxy gets its credential if the authority has the proxy's own host
or one of the names as they stand in the list, and gets none otherwise. Where the proxy's own key is
not declared, the first of the names that is declared at its port gives it its credential. -/
theorem localhost_lookup (accepted : ofAuthorities authorities = .ok table)
    (own : Localhost.isLocal uri.url = true) :
    (∀ authority place credential,
      OnlyLocal authorities uri.port? authority place credential →
      table.resolve? uri =
        if place.host ∈ uri.host :: Localhost.names then some credential else none) ∧
    (¬ Declares authorities uri.authority → ∀ credential,
      table.resolve? uri = some credential ↔
        ∃ before name after authority, Localhost.names = before ++ name :: after ∧
          DeclaredLast authorities (ProxyUri.key name uri.port?) authority credential ∧
          ∀ earlier ∈ before, ¬ Declares authorities (ProxyUri.key earlier uri.port?)) :=
  ⟨fun _ _ _ only => only.resolve?_eq accepted own,
    fun undeclared _ => resolve?_eq_some_of_not_declares accepted own undeclared⟩

/-- So a credential that is declared for `LOCALHOST` under a scheme with rules, which makes its
letters small, is found for the address that stands for it; and of two names that are declared at a
port, the one that comes first in the list decides, not the one that was declared first. -/
theorem localhost_lookup_address :
    (∃ table uri credential,
      ofAuthorities ["https://u:p@LOCALHOST:1", "socks://a:b@other:1"] = .ok table ∧
      ProxyUri.parse "socks5://127.0.0.1:1" = .ok uri ∧ table.resolve? uri = some credential) ∧
    ∃ table uri credential,
      ofAuthorities ["socks://a:b@0.0.0.0:1", "socks://u:p@localhost:1"] = .ok table ∧
      parseAuthority "socks://u:p@localhost:1" = .ok ("localhost:1", credential) ∧
      ProxyUri.parse "socks5://127.0.0.1:1" = .ok uri ∧ table.resolve? uri = some credential := by
  have read : ProxyUri.parse "socks5://127.0.0.1:1" = .ok
      ⟨⟨"socks5", "", none, some (.named "127.0.0.1" ⟨by decide, by decide⟩), some 1,
        .segments [], none, none⟩, rfl, rfl⟩ := rfl
  constructor
  · have accepted : ofAuthorities ["https://u:p@LOCALHOST:1", "socks://a:b@other:1"] =
        .ok ⟨[("localhost:1", ⟨"u", "p", by decide⟩), ("other:1", ⟨"a", "b", by decide⟩)],
          by decide⟩ := rfl
    have declared : ProxyUri.parse "https://u:p@LOCALHOST:1" = .ok
        ⟨⟨"https", "u", some "p", some (.named "localhost" ⟨by decide, by decide⟩), some 1,
          .segments [""], none, none⟩, rfl, rfl⟩ := rfl
    have other : ProxyUri.parse "socks://a:b@other:1" = .ok
        ⟨⟨"socks", "a", some "b", some (.named "other" ⟨by decide, by decide⟩), some 1,
          .segments [], none, none⟩, rfl, rfl⟩ := rfl
    refine ⟨_, _, ⟨"u", "p", by decide⟩, accepted, read, ?_⟩
    refine ((localhost_lookup accepted (by decide)).1 _ _ _
      ⟨declared, by decide, by decide, rfl, [], _, rfl, ?_⟩).trans (if_pos (by decide))
    rintro listed (_ | ⟨_, mem⟩) uri parsed isLocal
    · obtain rfl := Except.ok.inj (other.symm.trans parsed)
      exact absurd isLocal (by decide)
    · cases mem
  · have accepted : ofAuthorities ["socks://a:b@0.0.0.0:1", "socks://u:p@localhost:1"] =
        .ok ⟨[("0.0.0.0:1", ⟨"a", "b", by decide⟩), ("localhost:1", ⟨"u", "p", by decide⟩)],
          by decide⟩ := rfl
    have declares : parseAuthority "socks://u:p@localhost:1" =
        .ok ("localhost:1", ⟨"u", "p", by decide⟩) := rfl
    have undeclared : ¬ Declares ["socks://a:b@0.0.0.0:1", "socks://u:p@localhost:1"]
        "127.0.0.1:1" := by
      rw [← get?_ofAuthorities_eq_none accepted]
      decide
    have own : Localhost.isLocal ⟨"socks5", "", none,
        some (.named "127.0.0.1" ⟨by decide, by decide⟩), some 1, .segments [], none, none⟩ =
        true := by decide
    have lookup := @localhost_lookup _ _ ⟨_, rfl, rfl⟩ accepted own
    refine ⟨_, _, _, accepted, declares, read, (lookup.2 undeclared _).mpr
      ⟨["127.0.0.1"], "localhost", ["0.0.0.0"], _, rfl,
        ⟨["socks://a:b@0.0.0.0:1"], [], rfl, declares, nofun⟩, ?_⟩⟩
    rintro earlier (_ | ⟨_, mem⟩)
    · exact undeclared
    · cases mem

/-- **Under a scheme without rules another spelling of a name is no name.** The only local authority
at a port has a credential that is not found for a local proxy at this port. -/
theorem localhost_lookup_misses :
    ∃ table place uri, ofAuthorities ["socks://u:p@LOCALHOST:1"] = .ok table ∧
      ProxyUri.parse "socks://u:p@LOCALHOST:1" = .ok place ∧
      ProxyUri.parse "http://localhost:1" = .ok uri ∧ place.SameLocalPort uri ∧
      table.resolve? uri = none := by
  have accepted : ofAuthorities ["socks://u:p@LOCALHOST:1"] =
      .ok ⟨[("LOCALHOST:1", ⟨"u", "p", by decide⟩)], by decide⟩ := rfl
  have declared : ProxyUri.parse "socks://u:p@LOCALHOST:1" = .ok
      ⟨⟨"socks", "u", some "p", some (.named "LOCALHOST" ⟨by decide, by decide⟩), some 1,
        .segments [], none, none⟩, rfl, rfl⟩ := rfl
  have read : ProxyUri.parse "http://localhost:1" = .ok
      ⟨⟨"http", "", none, some (.named "localhost" ⟨by decide, by decide⟩), some 1,
        .segments [""], none, none⟩, rfl, rfl⟩ := rfl
  exact ⟨_, _, _, accepted, declared, read, ⟨by decide, by decide, rfl⟩, by decide⟩

end CredentialTable

end ProxyAutoConfig
