import ProxyAutoConfig.Proofs.Secrecy.Address
import ProxyAutoConfig.Proxy.CredentialTable

/-!
# Tables that look alike

Authorities that look alike declare credentials that look alike, under the same keys and in the same
order; so the tables that are built from them look alike. They are shown in the same way, up to the
order in which each of them lists its entries, and what they put into the candidates of a decision looks
alike as well.
-/

namespace ProxyAutoConfig.CredentialTable

open ProxyAutoConfig.Text

/-- Entries with one key and credentials that look alike. -/
def EntryAlike (p q : String × Credential) : Prop :=
  p.1 = q.1 ∧ p.2.Alike q.2

/-- **Tables that look alike**: they have the same keys in the same order, and under each of them
credentials that look alike. -/
def Alike (a b : CredentialTable) : Prop :=
  List.Forall₂ EntryAlike a.entries b.entries

variable {a b : CredentialTable}

/-! ## Declaring -/

/-- **Authorities that look alike declare credentials that look alike**, or are refused in the same
way. -/
theorem parseAuthority_alike {s t : String} (alike : Url.LoginAlike s t) :
    Outcome.Alike EntryAlike (parseAuthority s) (parseAuthority t) := by
  have read := ProxyUri.parse_alike alike
  unfold parseAuthority refused
  rw [alike.uriText_eq]
  generalize ProxyUri.parse s = x, ProxyUri.parse t = y at read
  cases read with
  | error failure => exact .error _
  | @ok uri uri' uris =>
    have keys := ProxyUri.Alike.authority_eq uris
    simp only
    rw [keys]
    obtain ⟨u, _, _⟩ := uri
    obtain ⟨u', _, _⟩ := uri'
    obtain ⟨url, passwords⟩ := uris
    cases passwords with
    | none => exact .error _
    | @some p q related =>
      have decoded := related.decodePart?
      simp only
      generalize Url.decodePart? p = c, Url.decodePart? q = d at decoded
      cases Url.decodePart? url.username with
      | none => exact .error _
      | some username =>
        cases decoded with
        | none => exact .error _
        | @some c d decoded =>
          have made := Credential.ofParts_alike username decoded
          simp only
          generalize Credential.ofParts username c = x, Credential.ofParts username d = y at made
          cases made with
          | error flaw => exact .error _
          | ok credentials => exact .ok ⟨rfl, credentials⟩

/-- Putting credentials that look alike under one key keeps tables alike. -/
theorem Alike.insert (alike : a.Alike b) (key : String) {c d : Credential}
    (credentials : c.Alike d) : (a.insert key c).Alike (b.insert key d) := by
  have kept : List.Forall₂ EntryAlike (a.entries.filter (·.1 != key))
      (b.entries.filter (·.1 != key)) := by
    refine List.rel_filter (fun p q entries => ?_) alike
    show (p.1 != key) = true ↔ (q.1 != key) = true
    rw [entries.1]
  exact List.rel_append kept (.cons ⟨rfl, credentials⟩ .nil)

/-- So do declarations, one after the other. -/
theorem declare_alike {list list' : List String} (related : List.Forall₂ Url.LoginAlike list list')
    (alike : a.Alike b) : Outcome.Alike Alike (declare a list) (declare b list') := by
  induction related generalizing a b with
  | nil => exact .ok alike
  | @cons s t rest rest' here _ ih =>
    have entry := parseAuthority_alike here
    rw [declare, declare]
    generalize parseAuthority s = x, parseAuthority t = y at entry
    cases entry with
    | error failure => exact .error failure
    | @ok p q related =>
      obtain ⟨key, c⟩ := p
      obtain ⟨key', d⟩ := q
      obtain ⟨rfl, credentials⟩ := related
      exact ih (alike.insert key credentials)

/-- **Lists of authorities that look alike make tables that look alike**, or fail in the same
way. -/
theorem ofAuthorities_alike {list list' : List String}
    (related : List.Forall₂ Url.LoginAlike list list') :
    Outcome.Alike Alike (ofAuthorities list) (ofAuthorities list') :=
  declare_alike related .nil

/-! ## Listing -/

/-- What an entry holds is found under its key. -/
theorem get?_of_mem {table : CredentialTable} {entry : String × Credential}
    (mem : entry ∈ table.entries) : table.get? entry.1 = some entry.2 := by
  obtain ⟨entries, unique⟩ := table
  show entries.lookup entry.1 = some entry.2
  induction entries with
  | nil => cases mem
  | cons first rest ih =>
    obtain ⟨absent, distinct⟩ := List.nodup_cons.mp unique
    rcases List.mem_cons.mp mem with rfl | behind
    · exact List.lookup_cons_self
    · have other : entry.1 ≠ first.1 := fun same => absent (same ▸ List.mem_map_of_mem behind)
      rw [List.lookup_cons, beq_eq_false_iff_ne.mpr other]
      exact ih distinct behind

/-- **A table lists its entries**, in whatever order. -/
theorem listed_perm (table : CredentialTable) (order : Listing) :
    (table.listed order).Perm table.entries := by
  have own : (table.entries.map Prod.fst).filterMap (fun key =>
      (table.get? key).map fun credential => (key, credential)) = table.entries := by
    rw [List.filterMap_map]
    refine (List.filterMap_congr fun entry mem => ?_).trans List.filterMap_some
    rw [Function.comp_apply, get?_of_mem mem, Option.map_some]
  exact ((order.perm _).filterMap _).trans (.of_eq own)

/-- One entry is listed in one way. -/
theorem listed_of_few {table : CredentialTable} (few : table.size ≤ 1) (order order' : Listing) :
    table.listed order = table.listed order' := by
  have keys : (table.entries.map Prod.fst).length ≤ 1 := (List.length_map _).trans_le few
  rw [listed, listed, order.arrange_eq_self keys, order'.arrange_eq_self keys]

/-- Another declaration makes a table longer by one entry at most. -/
theorem size_insert_le (table : CredentialTable) (key : String) (c : Credential) :
    (table.insert key c).size ≤ table.size + 1 := by
  have kept := List.length_filter_le (·.1 != key) table.entries
  rw [size, insert, List.length_append, List.length_singleton]
  exact Nat.succ_le_succ kept

/-- A table has no more entries than there are authorities. -/
theorem size_le_of_declare {table after : CredentialTable} {list : List String}
    (declared : declare table list = .ok after) : after.size ≤ table.size + list.length := by
  induction list generalizing table with
  | nil =>
    cases declared
    exact Nat.le_refl _
  | cons authority rest ih =>
    rw [declare] at declared
    cases here : parseAuthority authority with
    | error failure =>
      rw [here] at declared
      cases declared
    | ok entry =>
      rw [here] at declared
      have more := ih declared
      have one := size_insert_le table entry.1 entry.2
      rw [List.length_cons]
      omega

theorem size_le_of_ofAuthorities {table : CredentialTable} {list : List String}
    (declared : ofAuthorities list = .ok table) : table.size ≤ list.length :=
  (size_le_of_declare declared).trans_eq (Nat.zero_add _)

/-! ## Showing -/

/-- What is found under a key looks alike. -/
theorem Alike.get? (alike : a.Alike b) (key : String) :
    Option.Rel Credential.Alike (a.get? key) (b.get? key) := by
  unfold Alike at alike
  unfold CredentialTable.get?
  generalize a.entries = entries, b.entries = entries' at alike
  induction alike with
  | nil => exact .none
  | @cons p q _ _ here _ ih =>
    obtain ⟨k, c⟩ := p
    obtain ⟨k', d⟩ := q
    obtain ⟨rfl, credentials⟩ := here
    rw [List.lookup_cons, List.lookup_cons]
    cases key == k with
    | true => exact .some credentials
    | false => exact ih

section

variable {γ : Type} {shown : String × Credential → γ}
  (blind : ∀ p q, EntryAlike p q → shown p = shown q)
include blind

/-- What tells entries no better than their looks tells one thing of the entries of both tables. -/
theorem Alike.map_entries_eq (alike : a.Alike b) : a.entries.map shown = b.entries.map shown := by
  unfold Alike at alike
  generalize a.entries = entries, b.entries = entries' at alike
  induction alike with
  | nil => rfl
  | cons here _ ih => rw [List.map_cons, List.map_cons, ih, blind _ _ here]

/-- **Tables that look alike list the same**, whatever the orders in which they do. -/
theorem Alike.map_listed_perm (alike : a.Alike b) (order order' : Listing) :
    ((a.listed order).map shown).Perm ((b.listed order').map shown) := by
  have here := (listed_perm a order).map shown
  have there := (listed_perm b order').map shown
  rw [alike.map_entries_eq blind] at here
  exact here.trans there.symm

end

/-- **In one order they list it at the same places**: the order has to do with the keys alone. -/
theorem Alike.map_listed_eq {γ : Type} (alike : a.Alike b) {shown : String × Credential → γ}
    (blind : ∀ p q, EntryAlike p q → shown p = shown q) (order : Listing) :
    (a.listed order).map shown = (b.listed order).map shown := by
  have keys : a.entries.map Prod.fst = b.entries.map Prod.fst :=
    alike.map_entries_eq fun _ _ entries => entries.1
  rw [listed, listed, keys, List.map_filterMap, List.map_filterMap]
  refine List.filterMap_congr fun key _ => ?_
  have found := alike.get? key
  generalize a.get? key = x, b.get? key = y at found
  cases found with
  | none => rfl
  | some credentials => exact congrArg some (blind _ _ ⟨rfl, credentials⟩)

/-- An entry is shown with its password hidden. -/
theorem shownEntry_eq {p q : String × Credential} (entries : EntryAlike p q) :
    shownEntry p = shownEntry q := by
  rw [shownEntry, shownEntry, entries.1, entries.2.shown_eq]

theorem detailEntry_eq {p q : String × Credential} (entries : EntryAlike p q) :
    detailEntry p = detailEntry q := by
  rw [detailEntry, detailEntry, entries.1, entries.2.detail_eq]

/-! ## Telling -/

/-- **Texts that list the same**, each in an order of its own, with one text around it. -/
inductive Rearranged : String → String → Prop
  | parts (front back : String) {parts parts' : List String} : parts.Perm parts' →
      Rearranged (front ++ ", ".intercalate parts ++ back) (front ++ ", ".intercalate parts' ++ back)

/-- **Tables that are told alike**: `T` holds of two texts that list their entries, however an entry
is shown, as long as it is shown no better than by its looks, and whatever stands around the list. -/
def ToldAlike (T : String → String → Prop) (a b : CredentialTable) (order order' : Listing) : Prop :=
  ∀ shown : String × Credential → String, (∀ p q, EntryAlike p q → shown p = shown q) →
    ∀ front back, T (front ++ ", ".intercalate ((a.listed order).map shown) ++ back)
      (front ++ ", ".intercalate ((b.listed order').map shown) ++ back)

/-- **Tables that look alike are told in texts that list the same.** -/
theorem Alike.toldAlike_rearranged (alike : a.Alike b) (order order' : Listing) :
    ToldAlike Rearranged a b order order' :=
  fun _ blind front back => .parts front back (alike.map_listed_perm blind order order')

/-- **In one order they are told in one text**, and so they are where there is nothing to order. -/
theorem Alike.toldAlike_eq (alike : a.Alike b) {order order' : Listing}
    (settled : order = order' ∨ a.size ≤ 1) : ToldAlike Eq a b order order' := by
  intro shown blind front back
  have listed : a.listed order = a.listed order' := by
    rcases settled with same | few
    · rw [same]
    · exact listed_of_few few order order'
  rw [listed, alike.map_listed_eq blind order']

/-! ## Looking up -/

/-- **What is found for a proxy looks alike**, whichever of the two tables it is looked up in. -/
theorem Alike.resolve? (alike : a.Alike b) (uri : ProxyUri) :
    Option.Rel Credential.Alike (a.resolve? uri) (b.resolve? uri) := by
  have own := alike.get? uri.authority
  rw [CredentialTable.resolve?, CredentialTable.resolve?]
  generalize a.get? uri.authority = x, b.get? uri.authority = y at own
  cases own with
  | some credentials => exact .some credentials
  | none =>
    simp only
    split
    · induction Localhost.names with
      | nil => exact .none
      | cons name names ih =>
        have there := alike.get? (ProxyUri.key name uri.port?)
        rw [List.findSome?_cons, List.findSome?_cons]
        generalize a.get? (ProxyUri.key name uri.port?) = x,
          b.get? (ProxyUri.key name uri.port?) = y at there
        cases there with
        | some credentials => exact .some credentials
        | none => exact ih
    · exact .none

/-- A candidate that gets its credential looks alike. -/
theorem Alike.attach (alike : a.Alike b) (c : Candidate) :
    Outcome.Alike Candidate.Alike (a.attach c) (b.attach c) := by
  unfold CredentialTable.attach
  cases c.uri? with
  | none => exact .ok (.refl c)
  | some uri =>
    have found := alike.resolve? uri
    simp only
    generalize a.resolve? uri = x, b.resolve? uri = y at found
    cases found with
    | none => exact .ok (.refl c)
    | @some c d credentials =>
      have given := ProxyUri.withCredential_alike uri credentials
      simp only
      generalize uri.withCredential c = x, uri.withCredential d = y at given
      cases given with
      | error failure => exact .error failure
      | ok related => exact .ok ⟨rfl, rfl, .some related⟩

/-- **The candidates of a decision look alike with their credentials**, or are refused in the same
way. -/
theorem Alike.associate (alike : a.Alike b) (candidates : List Candidate) :
    Outcome.Alike (List.Forall₂ Candidate.Alike) (a.associate candidates)
      (b.associate candidates) := by
  refine Outcome.Alike.mapM (R := Eq) ?_ (List.forall₂_eq_eq_eq ▸ rfl)
  rintro c _ rfl
  exact alike.attach c

end ProxyAutoConfig.CredentialTable
