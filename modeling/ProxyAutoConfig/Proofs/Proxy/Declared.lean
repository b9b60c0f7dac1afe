import ProxyAutoConfig.Proxy.CredentialTable

/-!
# What a table of credentials holds

A table is built from a list of authorities, and holds exactly what they declare: under each key
the credential of the last authority in the list that has this key (`get?_ofAuthorities`). It is
built when every authority of the list can be used, and only then (`ofAuthorities_eq_ok_iff`).

An authority that can be used is a proxy URI with a credential of its own: its key is the URI's
host and port, and what it declares is the credential that the URI carries.
-/

namespace ProxyAutoConfig.CredentialTable

/-! ## One key -/

/-- A credential that was put under a key is found there. -/
theorem get?_insert_self (table : CredentialTable) (key : String) (credential : Credential) :
    (table.insert key credential).get? key = some credential := by
  have absent : (table.entries.filter (·.1 != key)).lookup key = none := by
    rw [List.lookup_eq_none_iff]
    intro entry mem
    exact bne_iff_ne.mpr (bne_iff_ne.mp (List.mem_filter.mp mem).2).symm
  simp only [get?, insert, List.lookup_append, absent, Option.none_or, List.lookup_cons_self]

/-- And under another key nothing changes. -/
theorem get?_insert_of_ne (table : CredentialTable) {key other : String} (ne : other ≠ key)
    (credential : Credential) : (table.insert key credential).get? other = table.get? other := by
  have kept : (table.entries.filter (·.1 != key)).lookup other = table.entries.lookup other := by
    induction table.entries with
    | nil => rfl
    | cons entry entries ih =>
      obtain ⟨k, c⟩ := entry
      by_cases hk : k = key
      · subst hk
        have miss : (other == k) = false := beq_eq_false_iff_ne.mpr ne
        have dropped : ((k, c) :: entries).filter (·.1 != k) = entries.filter (·.1 != k) :=
          List.filter_cons_of_neg (by simp only [bne_self_eq_false, Bool.false_eq_true,
            not_false_eq_true])
        rw [dropped, ih, List.lookup_cons, miss]
      · have taken : ((k, c) :: entries).filter (·.1 != key) =
            (k, c) :: entries.filter (·.1 != key) :=
          List.filter_cons_of_pos (bne_iff_ne.mpr hk)
        rw [taken, List.lookup_cons, List.lookup_cons, ih]
  have miss : [(key, credential)].lookup other = none := by
    rw [List.lookup_cons, beq_eq_false_iff_ne.mpr ne]
    rfl
  simp only [get?, insert, List.lookup_append, kept, miss, Option.or_none]

/-! ## One authority -/

/-- **An authority declares the credential that it carries**, under its own host and port. -/
theorem parseAuthority_eq_ok {authority key : String} {credential : Credential} :
    parseAuthority authority = .ok (key, credential) ↔
      ∃ uri, ProxyUri.parse authority = .ok uri ∧ uri.authority = key ∧
        uri.credential? = some credential := by
  unfold parseAuthority
  cases ProxyUri.parse authority with
  | error failure => simp only [reduceCtorEq, false_and, exists_false]
  | ok uri =>
    simp only [Except.ok.injEq, exists_eq_left', ProxyUri.credential?, Url.credential?]
    cases uri.url.password with
    | none => simp only [reduceCtorEq, Option.bind_none, and_false]
    | some password =>
      cases Url.decodePart? uri.url.username with
      | none => cases hp : Url.decodePart? password <;> simp [hp]
      | some username =>
        cases hp : Url.decodePart? password with
        | none => simp [hp]
        | some password' =>
          cases hc : Credential.ofParts username password' with
          | error flaw => simp [hp, hc, Except.toOption]
          | ok c => simp [hp, hc, Except.toOption]

/-! ## A list of authorities -/

/-- The credential that an authority declares under a key, if it has this key. -/
def declaredBy? (key authority : String) : Option Credential :=
  match parseAuthority authority with
  | .ok (own, credential) => if own = key then some credential else none
  | .error _ => none

/-- An authority declares a credential under its own key. -/
theorem declaredBy?_eq_some {key authority : String} {credential : Credential} :
    declaredBy? key authority = some credential ↔
      parseAuthority authority = .ok (key, credential) := by
  unfold declaredBy?
  cases parseAuthority authority with
  | error failure => simp only [reduceCtorEq]
  | ok pair =>
    obtain ⟨own, c⟩ := pair
    simp only [Option.ite_none_right_eq_some, Option.some.injEq, Except.ok.injEq, Prod.mk.injEq]

/-- An authority with another key declares nothing under this one. -/
theorem declaredBy?_eq_none {key authority : String} :
    declaredBy? key authority = none ↔
      ∀ credential, parseAuthority authority ≠ .ok (key, credential) := by
  simp only [Option.eq_none_iff_forall_ne_some, ne_eq, declaredBy?_eq_some]

/-- **The authority that decides about a key**: the last one of a list that has the key, with the
credential that it declares. -/
def DeclaredLast (authorities : List String) (key authority : String) (credential : Credential) :
    Prop :=
  ∃ before after, authorities = before ++ authority :: after ∧
    parseAuthority authority = .ok (key, credential) ∧
    ∀ later ∈ after, ∀ other, parseAuthority later ≠ .ok (key, other)

/-- It is found by going through the list from its end. -/
theorem findSome?_reverse_eq_some {authorities : List String} {key : String}
    {credential : Credential} :
    authorities.reverse.findSome? (declaredBy? key) = some credential ↔
      ∃ authority, DeclaredLast authorities key authority credential := by
  rw [List.findSome?_eq_some_iff]
  constructor
  · rintro ⟨behind, authority, front, split, declares, none_behind⟩
    refine ⟨authority, front.reverse, behind.reverse, ?_, declaredBy?_eq_some.mp declares, ?_⟩
    · rw [← List.reverse_inj, split, List.reverse_append, List.reverse_cons, List.reverse_reverse,
        List.reverse_reverse, List.append_assoc, List.singleton_append]
    · exact fun later mem => declaredBy?_eq_none.mp (none_behind later (List.mem_reverse.mp mem))
  · rintro ⟨authority, before, after, rfl, declares, none_behind⟩
    refine ⟨after.reverse, authority, before.reverse, ?_, declaredBy?_eq_some.mpr declares, ?_⟩
    · rw [List.reverse_append, List.reverse_cons, List.append_assoc, List.singleton_append]
    · exact fun later mem => declaredBy?_eq_none.mpr (none_behind later (List.mem_reverse.mp mem))

/-- Declaring one authority puts what it declares before what was there. -/
theorem get?_insert_of_parseAuthority (table : CredentialTable) {authority own : String}
    {credential : Credential} (declares : parseAuthority authority = .ok (own, credential))
    (key : String) :
    (table.insert own credential).get? key = (declaredBy? key authority).or (table.get? key) := by
  unfold declaredBy?
  rw [declares]
  by_cases same : own = key
  · subst same
    simp only [if_true, get?_insert_self, Option.some_or]
  · simp only [if_neg same, get?_insert_of_ne table (Ne.symm same), Option.none_or]

/-- Declaring several authorities puts what the last of them with a key declares before what was
there. -/
theorem get?_declare {authorities : List String} {table result : CredentialTable}
    (declared : declare table authorities = .ok result) (key : String) :
    result.get? key =
      (authorities.reverse.findSome? (declaredBy? key)).or (table.get? key) := by
  induction authorities generalizing table with
  | nil =>
    cases declared
    rfl
  | cons first rest ih =>
    rw [declare] at declared
    cases hf : parseAuthority first with
    | error failure => rw [hf] at declared; cases declared
    | ok pair =>
      obtain ⟨own, c⟩ := pair
      rw [hf] at declared
      rw [ih declared, get?_insert_of_parseAuthority table hf, ← Option.or_assoc, List.reverse_cons,
        List.findSome?_append, List.findSome?_singleton]

/-- **A table holds under each key what the last authority with this key declares.** -/
theorem get?_ofAuthorities {authorities : List String} {table : CredentialTable}
    (accepted : ofAuthorities authorities = .ok table) {key : String} {credential : Credential} :
    table.get? key = some credential ↔
      ∃ authority, DeclaredLast authorities key authority credential := by
  have nothing : empty.get? key = none := rfl
  rw [get?_declare accepted, nothing, Option.or_none, findSome?_reverse_eq_some]

/-- **A table is built when every authority can be used.** -/
theorem ofAuthorities_eq_ok_iff {authorities : List String} :
    (∃ table, ofAuthorities authorities = .ok table) ↔
      ∀ authority ∈ authorities, ∃ key credential,
        parseAuthority authority = .ok (key, credential) := by
  unfold ofAuthorities
  generalize empty = start
  induction authorities generalizing start with
  | nil => exact ⟨fun _ => List.forall_mem_nil _, fun _ => ⟨start, rfl⟩⟩
  | cons first rest ih =>
    rw [List.forall_mem_cons, declare]
    cases parseAuthority first with
    | error failure =>
      constructor
      · rintro ⟨_, h⟩
        cases h
      · rintro ⟨⟨_, _, h⟩, _⟩
        cases h
    | ok pair =>
      obtain ⟨key, credential⟩ := pair
      rw [ih]
      exact ⟨fun behind => ⟨⟨key, credential, rfl⟩, behind⟩, fun h => h.2⟩

/-- **The first authority that cannot be used is the one that is reported.** -/
theorem ofAuthorities_eq_error_iff {authorities : List String} {failure : Failure} :
    ofAuthorities authorities = .error failure ↔
      ∃ before authority behind, authorities = before ++ authority :: behind ∧
        (∀ other ∈ before, ∃ entry, parseAuthority other = .ok entry) ∧
        parseAuthority authority = .error failure := by
  unfold ofAuthorities
  generalize empty = start
  induction authorities generalizing start with
  | nil =>
    constructor
    · nofun
    · rintro ⟨before, authority, behind, split, -⟩
      exact absurd split.symm (List.append_ne_nil_of_right_ne_nil _ (List.cons_ne_nil _ _))
  | cons first rest ih =>
    rw [declare]
    cases parsed : parseAuthority first with
    | error refused =>
      constructor
      · rintro ⟨⟩
        exact ⟨[], first, rest, rfl, List.forall_mem_nil _, parsed⟩
      · rintro ⟨_ | ⟨other, before⟩, authority, behind, split, passed, failed⟩
        · obtain ⟨rfl, rfl⟩ := List.cons.inj split
          rw [parsed] at failed
          rw [Except.error.inj failed]
        · obtain ⟨rfl, rfl⟩ := List.cons.inj split
          obtain ⟨_, accepted⟩ := passed first List.mem_cons_self
          rw [parsed] at accepted
          cases accepted
    | ok entry =>
      simp only
      rw [ih]
      constructor
      · rintro ⟨before, authority, behind, rfl, passed, failed⟩
        exact ⟨first :: before, authority, behind, rfl,
          List.forall_mem_cons.mpr ⟨⟨entry, parsed⟩, passed⟩, failed⟩
      · rintro ⟨_ | ⟨other, before⟩, authority, behind, split, passed, failed⟩
        · obtain ⟨rfl, rfl⟩ := List.cons.inj split
          rw [parsed] at failed
          cases failed
        · obtain ⟨rfl, rfl⟩ := List.cons.inj split
          exact ⟨before, authority, behind, rfl, (List.forall_mem_cons.mp passed).2, failed⟩

end ProxyAutoConfig.CredentialTable
