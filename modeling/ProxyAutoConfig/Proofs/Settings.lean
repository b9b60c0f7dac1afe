import ProxyAutoConfig.Proofs.Session.Opening
import ProxyAutoConfig.Proofs.Text.Cut

/-!
# What the environment overrides

A variable lists authorities as pieces between commas: a piece is an entry with blanks around it, or
nothing but blanks (`Lists`). Whoever writes a list in this way has the entries back in their order,
and none besides.

**The law** (`Overrides.environment_overrides`): a list in the environment takes the place of the
one that is passed to a session, as if it had been passed; a variable that is absent or blank
changes nothing. Reading the environment fails at a credential or a level that is none, and at
nothing else.
-/

namespace ProxyAutoConfig.Overrides

open ProxyAutoConfig.Text

variable {environment : Environment}

/-! ## Entries between commas -/

/-- A text that may stand between commas as an entry: some character, no comma, and no blank at
either end. -/
structure IsEntry (entry : List Char) : Prop where
  nonempty : entry ≠ []
  comma : ',' ∉ entry
  first : ∀ c ∈ entry.head?, isBlank c = false
  last : ∀ c ∈ entry.getLast?, isBlank c = false

/-- **Pieces list entries**: each piece is an entry among blanks, or blank altogether. -/
inductive Lists : List (List Char) → List String → Prop
  | nil : Lists [] []
  | blank {piece : List Char} {pieces : List (List Char)} {listed : List String}
      (blank : isAllBlank piece = true) (rest : Lists pieces listed) :
      Lists (piece :: pieces) listed
  | entry {before after : List Char} {entry : String} {pieces : List (List Char)}
      {listed : List String} (blankBefore : isAllBlank before = true) (isEntry : IsEntry entry.toList)
      (blankAfter : isAllBlank after = true) (rest : Lists pieces listed) :
      Lists ((before ++ entry.toList ++ after) :: pieces) (entry :: listed)

/-- A value is pieces with commas between them. -/
def Spells (value : String) (listed : List String) : Prop :=
  ∃ pieces, Lists pieces listed ∧ value.toList = [','].intercalate pieces

/-- A comma is no blank. -/
theorem comma_not_mem_of_isAllBlank {cs : List Char} (blank : isAllBlank cs = true) : ',' ∉ cs :=
  fun mem => absurd (List.all_eq_true.mp blank ',' mem) (by decide)

/-- No piece holds a comma. -/
theorem Lists.comma_not_mem {pieces : List (List Char)} {listed : List String}
    (lists : Lists pieces listed) : ∀ piece ∈ pieces, ',' ∉ piece := by
  induction lists with
  | nil => exact List.forall_mem_nil _
  | blank blank _ ih => exact List.forall_mem_cons.mpr ⟨comma_not_mem_of_isAllBlank blank, ih⟩
  | entry blankBefore isEntry blankAfter _ ih =>
    refine List.forall_mem_cons.mpr ⟨?_, ih⟩
    simp only [List.mem_append, not_or]
    exact ⟨⟨comma_not_mem_of_isAllBlank blankBefore, isEntry.comma⟩,
      comma_not_mem_of_isAllBlank blankAfter⟩

/-- The pieces are trimmed to the entries and to nothing. -/
theorem Lists.trimmed {pieces : List (List Char)} {listed : List String}
    (lists : Lists pieces listed) :
    ((pieces.map trim).filter (!·.isEmpty)).map String.ofList = listed := by
  induction lists with
  | nil => rfl
  | blank blank _ ih => rw [List.map_cons, trim_of_isAllBlank blank]; exact ih
  | @entry before after entry _ _ blankBefore isEntry blankAfter _ ih =>
    have kept : (!entry.toList.isEmpty) = true := by
      rw [List.isEmpty_eq_false_iff.mpr isEntry.nonempty, Bool.not_false]
    rw [List.map_cons, trim_append blankBefore blankAfter isEntry.nonempty isEntry.first isEntry.last,
      List.filter_cons, if_pos kept, List.map_cons, String.ofList_toList, ih]

/-- **The entries of a value are those that it spells.** -/
theorem Spells.entries_eq {value : String} {listed : List String} (spells : Spells value listed) :
    entries value.toList = listed := by
  obtain ⟨pieces, lists, whole⟩ := spells
  cases pieces with
  | nil =>
    cases lists
    rw [whole]
    rfl
  | cons piece pieces =>
    rw [entries, whole, List.splitOn_intercalate ',' lists.comma_not_mem (List.cons_ne_nil _ _),
      lists.trimmed]

/-- Whoever spells some entry does not write blanks alone. -/
theorem Spells.not_isAllBlank {value : String} {listed : List String} (spells : Spells value listed)
    (some' : listed ≠ []) : isAllBlank value.toList = false := by
  rw [Bool.eq_false_iff]
  intro blank
  have nothing : entries value.toList = [] := by
    rw [entries, List.splitOn_eq_singleton (comma_not_mem_of_isAllBlank blank), List.map_singleton,
      trim_of_isAllBlank blank]
    rfl
  exact some' (spells.entries_eq ▸ nothing)

/-! ## Reading the environment -/

/-- A variable is read where it is set and not blank. -/
theorem read?_eq_some {name : String} {cs : List Char} : read? environment name = some cs ↔
    ∃ value, environment.lookup name = some value ∧ isAllBlank value.toList = false ∧
      value.toList = cs := by
  rw [read?]
  cases environment.lookup name with
  | none => simp only [reduceCtorEq, false_and, exists_false]
  | some value =>
    simp only [Option.some.injEq, exists_eq_left']
    cases isAllBlank value.toList with
    | true => simp only [if_true, reduceCtorEq, false_and]
    | false => simp only [Bool.false_eq_true, if_false, Option.some.injEq, true_and]

/-- And not read where it is not set, or blank. -/
theorem read?_eq_none {name : String} : read? environment name = none ↔
    ∀ value, environment.lookup name = some value → isAllBlank value.toList = true := by
  rw [read?]
  cases environment.lookup name with
  | none => simp only [reduceCtorEq, false_implies, implies_true]
  | some value =>
    simp only [Option.some.injEq, forall_eq']
    cases isAllBlank value.toList <;> simp only [if_true, Bool.false_eq_true, if_false, reduceCtorEq]

variable {α : Type}

/-- What a reader makes of a variable, if it is set and not blank. -/
def readAs (reader : String → Outcome α) (environment : Environment) (name : String) :
    Outcome (Option α) :=
  match read? environment name with
  | none => .ok none
  | some value => (reader (String.ofList value)).map some

/-- **A variable is refused**: it is set and not blank, and its reader fails. -/
inductive Refuses (reader : String → Outcome α) (environment : Environment) (name : String) :
    Failure → Prop
  | refused {value : String} {failure : Failure} (found : environment.lookup name = some value)
      (filled : isAllBlank value.toList = false) (refused : reader value = .error failure) :
      Refuses reader environment name failure

/-- Reading fails where the variable is refused. -/
theorem readAs_eq_error {reader : String → Outcome α} {name : String} {failure : Failure} :
    readAs reader environment name = .error failure ↔
      Refuses reader environment name failure := by
  constructor
  · intro failed
    rw [readAs] at failed
    cases read : read? environment name with
    | none =>
      rw [read] at failed
      cases failed
    | some cs =>
      obtain ⟨value, found, filled, rfl⟩ := read?_eq_some.mp read
      rw [read] at failed
      simp only [String.ofList_toList] at failed
      cases outcome : reader value with
      | ok a =>
        rw [outcome] at failed
        cases failed
      | error _ =>
        rw [outcome] at failed
        cases failed
        exact ⟨found, filled, outcome⟩
  · rintro ⟨found, filled, refused⟩
    rw [readAs, read?_eq_some.mpr ⟨_, found, filled, rfl⟩]
    simp only [String.ofList_toList, refused]
    rfl

/-- Reading succeeds where it is not. -/
theorem exists_readAs {reader : String → Outcome α} {name : String} :
    (∃ a, readAs reader environment name = .ok a) ↔
      ¬ ∃ failure, Refuses reader environment name failure := by
  simp only [← readAs_eq_error]
  cases readAs reader environment name with
  | ok a => simp only [Except.ok.injEq, exists_eq', reduceCtorEq, exists_false, not_false_eq_true]
  | error failure => simp only [reduceCtorEq, exists_false, Except.error.injEq, exists_eq', not_true]

/-- The credential that a value is without the blanks around it. -/
def credentialOf (value : String) : Outcome Credential :=
  match Credential.parse (String.ofList (trim value.toList)) with
  | .ok credential => .ok credential
  | .error flaw => .error flaw.toFailure

/-- The environment is read variable by variable. -/
theorem ofEnvironment_eq : ofEnvironment environment =
    readAs credentialOf environment downloadVariable >>= fun download =>
      readAs Log.Level.parse environment logLevelVariable >>= fun logLevel =>
        .ok ⟨(read? environment authoritiesVariable).map entries, download, logLevel⟩ := by
  rw [ofEnvironment, readAs, readAs]
  cases read? environment downloadVariable with
  | none => cases read? environment logLevelVariable <;> rfl
  | some value =>
    simp only [credentialOf, String.toList_ofList]
    cases Credential.parse (String.ofList (trim value)) with
    | ok credential => cases read? environment logLevelVariable <;> rfl
    | error flaw => rfl

/-- The authorities that have been read are the entries of their variable. -/
theorem authorities_of_ofEnvironment {overrides : Overrides}
    (read : ofEnvironment environment = .ok overrides) :
    overrides.authorities = (read? environment authoritiesVariable).map entries := by
  rw [ofEnvironment_eq] at read
  obtain ⟨download, _, rest⟩ := Outcome.bind_eq_ok.mp read
  obtain ⟨logLevel, _, built⟩ := Outcome.bind_eq_ok.mp rest
  cases built
  rfl

/-- **Reading fails at a credential that is none, or else at a level that is none**, and at nothing
besides. -/
theorem ofEnvironment_eq_error {failure : Failure} :
    ofEnvironment environment = .error failure ↔
      Refuses credentialOf environment downloadVariable failure ∨
      (¬ ∃ earlier, Refuses credentialOf environment downloadVariable earlier) ∧
        Refuses Log.Level.parse environment logLevelVariable failure := by
  rw [ofEnvironment_eq, Outcome.bind_eq_error, readAs_eq_error, ← exists_readAs]
  simp only [Outcome.bind_eq_error, readAs_eq_error, reduceCtorEq, and_false, exists_false, or_false,
    exists_and_right]

/-! ## The law -/

/-- **What becomes of a session's authorities.** -/
structure Overriding (environment : Environment) : Prop where
  /-- A list in the environment takes the place of whatever list is passed: the session is opened, or
  fails, as if the former had been passed. -/
  replaces {value : String} {listed : List String} {overrides : Overrides} :
    environment.lookup authoritiesVariable = some value → Spells value listed → listed ≠ [] →
    ofEnvironment environment = .ok overrides →
      overrides.authorities = some listed ∧
      ∀ options : Options,
        CredentialTable.ofAuthorities { options with overrides }.effective =
          CredentialTable.ofAuthorities listed ∧
        ∀ (supply : Source.Supply) (w : World) (specifier : String),
          Session.open supply w { options with overrides } specifier =
            Session.open supply w
              { options with
                authorities := listed
                overrides := { overrides with authorities := none } } specifier
  /-- Without a list there, the one that is passed is used. -/
  keeps {overrides : Overrides} :
    (∀ value, environment.lookup authoritiesVariable = some value →
      isAllBlank value.toList = true) →
    ofEnvironment environment = .ok overrides →
      overrides.authorities = none ∧
      ∀ options : Options, { options with overrides }.effective = options.authorities
  /-- Only a credential or a level that is none cannot be read, and the credential is read first. -/
  fails {failure : Failure} :
    ofEnvironment environment = .error failure ↔
      Refuses credentialOf environment downloadVariable failure ∨
      (¬ ∃ earlier, Refuses credentialOf environment downloadVariable earlier) ∧
        Refuses Log.Level.parse environment logLevelVariable failure

/-- **The environment overrides the authorities of a session faithfully.** -/
theorem environment_overrides (environment : Environment) : Overriding environment where
  replaces {value listed overrides} found spells some' read := by
    have authorities : overrides.authorities = some listed := by
      rw [authorities_of_ofEnvironment read,
        read?_eq_some.mpr ⟨value, found, spells.not_isAllBlank some', rfl⟩, Option.map_some,
        spells.entries_eq]
    obtain ⟨_, download, logLevel⟩ := overrides
    cases authorities
    exact ⟨rfl, fun options => ⟨rfl, fun supply w specifier => rfl⟩⟩
  keeps {overrides} blank read := by
    have authorities : overrides.authorities = none := by
      rw [authorities_of_ofEnvironment read, read?_eq_none.mpr blank, Option.map_none]
    refine ⟨authorities, fun options => ?_⟩
    rw [Options.effective, effective, authorities, Option.getD_none]
  fails := ofEnvironment_eq_error

/-- Two entries among blank pieces; a blank list; a credential and a level that are none. -/
theorem environment_overrides_spelled :
    (∃ overrides, ofEnvironment
        [(authoritiesVariable, " ,http://a:b@1.2.3.4:8080\t, ,socks5://c:d@h:1080")] = .ok overrides ∧
      overrides.authorities = some ["http://a:b@1.2.3.4:8080", "socks5://c:d@h:1080"]) ∧
    (∃ overrides, ofEnvironment [(authoritiesVariable, " ")] = .ok overrides ∧
      { Options.standard with overrides }.effective = []) ∧
    ofEnvironment [(logLevelVariable, "loud"), (downloadVariable, " nocolon")] =
      .error (.invalidCredential "expected username:password") := by
  have spells : Spells " ,http://a:b@1.2.3.4:8080\t, ,socks5://c:d@h:1080"
      ["http://a:b@1.2.3.4:8080", "socks5://c:d@h:1080"] := by
    have first : IsEntry "http://a:b@1.2.3.4:8080".toList :=
      ⟨by decide, by decide, by rintro _ ⟨⟩; rfl, by rintro _ ⟨⟩; rfl⟩
    have second : IsEntry "socks5://c:d@h:1080".toList :=
      ⟨by decide, by decide, by rintro _ ⟨⟩; rfl, by rintro _ ⟨⟩; rfl⟩
    exact ⟨[[' '], [] ++ "http://a:b@1.2.3.4:8080".toList ++ ['\t'], [' '],
      [] ++ "socks5://c:d@h:1080".toList ++ []],
      .blank rfl (.entry rfl first rfl (.blank rfl (.entry rfl second rfl .nil))), rfl⟩
  have listed := (environment_overrides
      [(authoritiesVariable, " ,http://a:b@1.2.3.4:8080\t, ,socks5://c:d@h:1080")]).replaces
    rfl spells (List.cons_ne_nil _ _) rfl
  have unset := (environment_overrides [(authoritiesVariable, " ")]).keeps
    (by decide) rfl
  refine ⟨⟨_, rfl, listed.1⟩, ⟨_, rfl, unset.2 Options.standard⟩, ?_⟩
  exact (environment_overrides _).fails.mpr (.inl ⟨rfl, by decide, rfl⟩)

end ProxyAutoConfig.Overrides
