import ProxyAutoConfig.Proofs.Session.Lookup
import ProxyAutoConfig.Proofs.Source.Obtain

/-!
# Opening a session

A session is opened in stages: a look at the specifier, the authorities, getting the script, a look
at it, and the start of the engine. The first stage that fails is the last one that happens, and
its failure is the outcome (`Opens`); what would have come of later stages does not matter, so that
nothing is read or asked for where an authority is no good, and the script does not run where its
content or a host function is.
-/

namespace ProxyAutoConfig.Session

open ProxyAutoConfig.Text

variable (supply : Source.Supply) (w : World) (options : Options) (specifier : String)

/-! ## The stages -/

/-- The journal of a session that has got its script. -/
def toldContent (loaded : Source.Loaded) (j : Journal) : Journal :=
  j.addCaller .trace "PAC content" [("content", loaded.content)]

/-- The journal of a session that is open. -/
def toldReady (natives : NativeTable) (listed : List (String × Credential))
    (loaded : Source.Loaded) (j : Journal) : Journal :=
  ((toldContent loaded j).addEngine .debug "PAC engine ready"
    [("natives", toString natives.length)]).addCaller .debug "PAC session ready"
      [("source", loaded.label),
        ("credentials", ", ".intercalate (listed.map CredentialTable.shownEntry))]

/-- The script that a specifier gives, or why there is none, and the journal of getting it. -/
def obtained : Outcome Source.Loaded × Journal :=
  (Source.obtain supply options.overrides.download specifier).record

/-- **What is settled before the engine starts**: the authorities make a table, and a script has been
got that can be one. -/
structure Prepared (table : CredentialTable) (loaded : Source.Loaded) (j : Journal) : Prop where
  named : isAllBlank specifier.toList = false
  declared : CredentialTable.ofAuthorities options.effective = .ok table
  obtained : obtained supply options specifier = (.ok loaded, j)
  checked : Source.checkContent loaded.content = .ok ()

/-- **How a session is opened**: an outcome and a journal, by the stage that is the last to happen.
No stage says anything of what the later ones would have come to. -/
inductive Opens : Outcome Session × Journal → Prop
  | blank : isAllBlank specifier.toList = true → Opens (.error (.missing "PAC source"), .empty)
  | authority {before behind : List String} {authority : String} {failure : Failure} :
      isAllBlank specifier.toList = false →
      options.effective = before ++ authority :: behind →
      (∀ other ∈ before, ∃ entry, CredentialTable.parseAuthority other = .ok entry) →
      CredentialTable.parseAuthority authority = .error failure →
      Opens (.error failure, .empty)
  | loading {table : CredentialTable} {failure : Failure} {j : Journal} :
      isAllBlank specifier.toList = false →
      CredentialTable.ofAuthorities options.effective = .ok table →
      obtained supply options specifier = (.error failure, j) → Opens (.error failure, j)
  | content {table : CredentialTable} {loaded : Source.Loaded} {failure : Failure} {j : Journal} :
      isAllBlank specifier.toList = false →
      CredentialTable.ofAuthorities options.effective = .ok table →
      obtained supply options specifier = (.ok loaded, j) →
      Source.checkContent loaded.content = .error failure → Opens (.error failure, j)
  | engine {table : CredentialTable} {loaded : Source.Loaded} {failure : Failure} {j : Journal} :
      Prepared supply options specifier table loaded j →
      Engine.Starts options.natives options.limits w loaded.content (.error failure) →
      Opens (.error failure, toldContent loaded j)
  | ready {table : CredentialTable} {loaded : Source.Loaded} {engine : Engine} {j : Journal} :
      Prepared supply options specifier table loaded j →
      Engine.Starts options.natives options.limits w loaded.content (.ok engine) →
      Opens (.ok ⟨loaded.label, loaded.content, table, supply.order, engine⟩,
        toldReady options.natives (table.listed supply.order) loaded j)

/-- The stages one after the other. -/
theorem record_open :
    (Session.open supply w options specifier).record =
      if isAllBlank specifier.toList then (.error (.missing "PAC source"), .empty)
      else
        match CredentialTable.ofAuthorities options.effective with
        | .error failure => (.error failure, .empty)
        | .ok table =>
          match obtained supply options specifier with
          | (.error failure, j) => (.error failure, j)
          | (.ok loaded, j) =>
            match Source.checkContent loaded.content with
            | .error failure => (.error failure, j)
            | .ok () =>
              match Engine.start options.natives options.limits w loaded.content with
              | .error failure => (.error failure, toldContent loaded j)
              | .ok engine => (.ok ⟨loaded.label, loaded.content, table, supply.order, engine⟩,
                  toldReady options.natives (table.listed supply.order) loaded j) := by
  unfold Session.open obtained
  rw [Source.load_eq]
  cases isAllBlank specifier.toList with
  | true => rfl
  | false =>
    cases CredentialTable.ofAuthorities options.effective with
    | error failure => rfl
    | ok table =>
      have accepted : Recorded.ofOutcome (.ok table : Outcome CredentialTable) = pure table := rfl
      simp only [accepted, bind_assoc, pure_bind, Bool.false_eq_true, if_false, Recorded.record]
      cases got : Source.obtain supply options.overrides.download specifier .empty with
      | error failure j => rw [Outcome.bind_of_error got]
      | ok loaded j =>
        rw [Outcome.bind_of_ok got]
        simp only
        cases Source.checkContent loaded.content with
        | error failure => rfl
        | ok _ =>
          simp only
          cases Engine.start options.natives options.limits w loaded.content <;> rfl

variable {supply w options specifier}

/-- **A session is opened in one way**, and there is one for every specifier, all options and every
world. -/
theorem opens_iff {result : Outcome Session × Journal} :
    Opens supply w options specifier result ↔
      (Session.open supply w options specifier).record = result := by
  rw [record_open]
  constructor
  · rintro (blank | ⟨named, split, passed, refused⟩ | ⟨named, declared, failed⟩ |
      ⟨named, declared, got, refused⟩ | ⟨⟨named, declared, got, checked⟩, started⟩ |
      ⟨⟨named, declared, got, checked⟩, started⟩)
    · rw [blank]
      rfl
    · rw [named, CredentialTable.ofAuthorities_eq_error_iff.mpr ⟨_, _, _, split, passed, refused⟩]
      rfl
    · simp only [named, declared, failed, Bool.false_eq_true, if_false]
    · simp only [named, declared, got, refused, Bool.false_eq_true, if_false]
    · simp only [named, declared, got, checked, Engine.starts_iff.mp started, Bool.false_eq_true,
        if_false]
    · simp only [named, declared, got, checked, Engine.starts_iff.mp started, Bool.false_eq_true,
        if_false]
  · rintro rfl
    cases named : isAllBlank specifier.toList with
    | true => exact .blank named
    | false =>
      cases declared : CredentialTable.ofAuthorities options.effective with
      | error failure =>
        obtain ⟨before, authority, behind, split, passed, refused⟩ :=
          CredentialTable.ofAuthorities_eq_error_iff.mp declared
        exact .authority named split passed refused
      | ok table =>
        cases got : obtained supply options specifier with
        | mk outcome j =>
          cases outcome with
          | error failure => exact .loading named declared got
          | ok loaded =>
            simp only [Bool.false_eq_true, if_false]
            cases checked : Source.checkContent loaded.content with
            | error failure => exact .content named declared got checked
            | ok _ =>
              have prepared : Prepared supply options specifier table loaded j :=
                ⟨named, declared, got, checked⟩
              simp only
              cases started : Engine.start options.natives options.limits w loaded.content with
              | error failure => exact .engine prepared (Engine.starts_iff.mpr started)
              | ok engine => exact .ready prepared (Engine.starts_iff.mpr started)

/-! ## What comes of the stages -/

/-- A session that is open went through all stages. -/
theorem exists_prepared {s : Session}
    (opened : (Session.open supply w options specifier).record.1 = .ok s) :
    ∃ table loaded j, Prepared supply options specifier table loaded j ∧
      Engine.Starts options.natives options.limits w loaded.content (.ok s.engine) ∧
      s.content = loaded.content := by
  have opens := opens_iff.mpr (rfl : (Session.open supply w options specifier).record = _)
  generalize (Session.open supply w options specifier).record = result at opened opens
  cases opens <;> cases opened
  next table loaded engine j prepared started =>
    exact ⟨table, loaded, j, prepared, started, rfl⟩

/-- Content that can be a script is not blank, and mentions the decision function. -/
theorem checkContent_eq_ok {content : String} :
    Source.checkContent content = .ok () ↔
      isAllBlank content.toList = false ∧
        holds decisionFunction.toList content.toList = true := by
  unfold Source.checkContent
  cases isAllBlank content.toList <;>
    cases holds decisionFunction.toList content.toList <;> simp

theorem checkContent_fails (content : String) :
    Outcome.FailsAs [.invalid] (Source.checkContent content) := by
  unfold Source.checkContent
  split
  · exact .error List.mem_cons_self
  · split
    · exact .error List.mem_cons_self
    · exact .ok _

/-- **The kinds of failures to open a session**: that of the evaluation is none of them. -/
theorem open_fails :
    Outcome.FailsAs [.missing, .invalid, .fetchFailed, .nativeRegistrationFailed, .scriptLoadFailed]
      (Session.open supply w options specifier).record.1 := by
  intro failure failed
  have opens := opens_iff.mpr (rfl : (Session.open supply w options specifier).record = _)
  generalize (Session.open supply w options specifier).record = result at failed opens
  cases opens <;> cases failed
  case blank => decide
  case authority _ refused =>
    have kind := CredentialTable.parseAuthority_fails _ _ refused
    grind
  case loading _ got =>
    have kind := (Source.obtain_yields _ _ _).of_record_error got
    grind
  case content _ refused =>
    have kind := checkContent_fails _ _ refused
    grind
  case engine _ started =>
    have kind := Engine.start_fails _ (Engine.starts_iff.mp started)
    grind

/-! ## The whole -/

variable (supply w options specifier)

/-- **Opening is staged, and all or nothing.** -/
structure Staged : Prop where
  /-- Opening ends with the first stage that fails, or behind the last one. -/
  stage : ∀ result, (Session.open supply w options specifier).record = result ↔
    Opens supply w options specifier result
  /-- Where an authority is no good nothing is read, asked for or run. -/
  authority : ∀ failure, isAllBlank specifier.toList = false →
    CredentialTable.ofAuthorities options.effective = .error failure →
    ∀ supply' w' natives limits,
      (Session.open supply' w' { options with natives, limits } specifier).record =
        (.error failure, .empty)
  /-- Where the content is no good nothing is run. -/
  content : ∀ table loaded j failure, isAllBlank specifier.toList = false →
    CredentialTable.ofAuthorities options.effective = .ok table →
    obtained supply options specifier = (.ok loaded, j) →
    Source.checkContent loaded.content = .error failure →
    ∀ w' natives limits,
      (Session.open supply w' { options with natives, limits } specifier).record =
        (.error failure, j)
  /-- Where the table of host functions is no good no script is run. -/
  natives : ∀ table loaded j name reason, Prepared supply options specifier table loaded j →
    options.natives.flaw? [] = some (name, reason) →
    ∀ w' limits, (Session.open supply w' { options with limits } specifier).record =
      (.error (.nativeRegistration name reason), toldContent loaded j)
  /-- The content of a session can be a script, and is what its specifier gives. -/
  success : ∀ s, (Session.open supply w options specifier).record.1 = .ok s →
    isAllBlank s.content.toList = false ∧
      holds decisionFunction.toList s.content.toList = true ∧
      Source.Gives supply options.overrides.download specifier s.content
  /-- Opening does not fail as an evaluation does. -/
  failure : Outcome.FailsAs
    [.missing, .invalid, .fetchFailed, .nativeRegistrationFailed, .scriptLoadFailed]
    (Session.open supply w options specifier).record.1
  /-- No session, and so none that is open, fails at anything but what it is asked for or the
  evaluation, whatever it has been asked before. -/
  lookups : ∀ (s : Session) w' question,
    Outcome.FailsAs [.invalid, .evaluationFailed] (s.use (ask w' question)).1

/-- **Every session is opened so.** The specifier, the authorities, the script, its content, the
host functions, the library and the script's own statements come in this order, and the first of
them that fails settles what comes of it all, whatever is wrong with the others. -/
theorem opening_staged : Staged supply w options specifier where
  stage _ := opens_iff.symm
  authority failure named refused supply' w' natives limits := by
    obtain ⟨before, authority, behind, split, passed, failed⟩ :=
      CredentialTable.ofAuthorities_eq_error_iff.mp refused
    exact opens_iff.mp (.authority named split passed failed)
  content table loaded j failure named declared got refused w' natives limits :=
    opens_iff.mp (.content named declared got refused)
  natives table loaded j name reason prepared flawed w' limits := by
    have same : Prepared supply { options with limits } specifier table loaded j :=
      ⟨prepared.named, prepared.declared, prepared.obtained, prepared.checked⟩
    exact opens_iff.mp (.engine same (.flaw flawed))
  success s opened := by
    obtain ⟨table, loaded, j, prepared, -, content⟩ := exists_prepared opened
    obtain ⟨blank, mentions⟩ := checkContent_eq_ok.mp prepared.checked
    rw [content]
    exact ⟨blank, mentions, (Source.obtain_yields _ _ _).of_record_ok prepared.obtained⟩
  failure := open_fails
  lookups s w' question := ask_fails s w' question

/-- So nothing is read where the only authority has no password. -/
theorem opening_staged_authority (supply : Source.Supply) (w : World) :
    (Session.open supply w { Options.standard with authorities := ["http://u@h:1"] } "x.pac").record =
      (.error (.invalidAuthorityUri "http://u@h:1" "missing username:password"), .empty) := by
  let options : Options := { Options.standard with authorities := ["http://u@h:1"] }
  have refused : CredentialTable.ofAuthorities options.effective =
      .error (.invalidAuthorityUri "http://u@h:1" "missing username:password") := by
    exact CredentialTable.ofAuthorities_eq_error_iff.mpr
      ⟨[], "http://u@h:1", [], rfl, List.forall_mem_nil _, by decide +kernel⟩
  exact (opening_staged supply w options "x.pac").authority _ (by decide) refused supply w _ _

end ProxyAutoConfig.Session
