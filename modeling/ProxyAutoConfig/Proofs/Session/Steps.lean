import ProxyAutoConfig.Proofs.Session.Opening

/-!
# Lookups in sequence

A session is asked one question after another while the world changes around it. What a question
does to the session is decided by its URL alone, and not by whether it is asked for the decision
or for the candidates (`use_ask`); a URL that cannot be read does nothing to it. Whatever lookups
come to, the session stays what it was but for the script's own world (`after_eq`), in which the
decision function is called by the next one.

The levels for this call are not always the same. A host function that breaks down leaves those of
the calls under way taken for good (`left_after`), so that behind it a script may run out of levels that
was called without trouble before (`breakdown_takes_levels`).

A run is taken apart at any of its lookups (`answers_append`), and so all this is said of every
lookup of every run (`lookup_regular`).
-/

namespace ProxyAutoConfig.Session

/-- What happens in a run: a question is asked, or the world changes. -/
inductive Step where
  | ask (question : Question)
  | change (world : World)

/-- The questions of a run, each with the world at its moment. -/
def schedule (w : World) : List Step → List (World × Question)
  | [] => []
  | .ask question :: rest => (w, question) :: schedule w rest
  | .change world :: rest => schedule world rest

/-- The world behind the steps of a run. -/
def worldAfter (w : World) : List Step → World
  | [] => w
  | .ask _ :: rest => worldAfter w rest
  | .change world :: rest => worldAfter world rest

/-- The session behind the steps of a run. -/
def after (s : Session) (w : World) : List Step → Session
  | [] => s
  | .ask question :: rest => (s.use (ask w question)).2.1.after w rest
  | .change world :: rest => s.after world rest

/-- The answers to the questions of a run. -/
def answers (s : Session) (w : World) (steps : List Step) : List (Outcome Answer) :=
  (s.turns (schedule w steps)).map Turn.answer

variable (s : Session) (w : World)

/-! ## Steps -/

@[simp] theorem answers_nil : s.answers w [] = [] := rfl

@[simp] theorem answers_change (world : World) (steps : List Step) :
    s.answers w (.change world :: steps) = s.answers world steps := rfl

@[simp] theorem answers_ask (question : Question) (steps : List Step) :
    s.answers w (.ask question :: steps) =
      (s.use (ask w question)).1 :: (s.use (ask w question)).2.1.answers w steps := rfl

/-- **A run goes on where it has been interrupted.** -/
theorem answers_append (front back : List Step) :
    s.answers w (front ++ back) =
      s.answers w front ++ (s.after w front).answers (worldAfter w front) back := by
  induction front generalizing s w with
  | nil => rfl
  | cons step front ih =>
    cases step with
    | ask question =>
      rw [List.cons_append, answers_ask, answers_ask, ih, List.cons_append]
      rfl
    | change world =>
      rw [List.cons_append, answers_change, answers_change, ih]
      rfl

theorem after_append (front back : List Step) :
    s.after w (front ++ back) = (s.after w front).after (worldAfter w front) back := by
  induction front generalizing s w with
  | nil => rfl
  | cons step front ih =>
    cases step with
    | ask question => exact ih _ w
    | change world => exact ih s world

/-- **Of a session, lookups change nothing but the machine of its engine.** -/
theorem after_eq (steps : List Step) :
    ∃ machine, s.after w steps = { s with engine := { s.engine with machine } } := by
  induction steps generalizing s w with
  | nil => exact ⟨s.engine.machine, rfl⟩
  | cons step steps ih =>
    cases step with
    | change world => exact ih s world
    | ask question =>
      obtain ⟨machine, left⟩ := use_decision_eq s w question.url
      obtain ⟨last, reached⟩ := ih { s with engine := { s.engine with machine } } w
      refine ⟨last, ?_⟩
      rw [after, (use_ask s w question).2, left, reached]

variable {s} in
/-- **A session keeps a discipline**, whatever it has been asked, where its host functions do. -/
theorem after_keeps {D : Script.Discipline} (enters : D.Enters) (keeps : s.engine.natives.Keeps D)
    (holds : D.holds s.engine.machine.objects s.engine.machine.scopes) (steps : List Step) :
    let machine := (s.after w steps).engine.machine
    D.holds machine.objects machine.scopes := by
  induction steps generalizing s w with
  | nil => exact holds
  | cons step steps ih =>
    cases step with
    | change world => exact ih world keeps holds
    | ask question =>
      rw [after, (use_ask s w question).2]
      cases read : Url.parse question.url with
      | error flaw =>
        rw [use_decision_of_error s w read]
        exact ih w keeps holds
      | ok parsed =>
        have call : D.Keeps s.engine.machine.depth s.engine.limits.levels .any _ :=
          Engine.callDecision_keeps w question.url (scriptHost parsed) enters keeps
        rw [use_decision_of_ok s w read, Engine.decide_eq]
        exact ih w keeps (call.finish holds trivial).1

/-! ## Levels -/

/-- A host function breaks down in a lookup. -/
def BreaksDown (url : String) : Prop :=
  ∃ parsed message, Url.parse url = .ok parsed ∧
    (s.engine.called w url (scriptHost parsed)).1 = .error (.broken message)

/-- **No host function breaks down** in the lookups of a run. -/
def Sound (steps : List Step) : Prop :=
  ∀ front question back, steps = front ++ .ask question :: back →
    ¬ (s.after w front).BreaksDown (worldAfter w front) question.url

variable {s} in
/-- **A lookup leaves the levels that it finds**, unless a host function breaks down in it. -/
theorem left_ask (steady : s.engine.natives.Steady) (question : Question) :
    let next := (s.use (ask w question)).2.1
    next.engine.left = s.engine.left ∨
      s.BreaksDown w question.url ∧ next.engine.left ≤ s.engine.left ∧ 0 < next.engine.left := by
  simp only
  rw [(use_ask s w question).2]
  cases read : Url.parse question.url with
  | error flaw =>
    rw [use_decision_of_error s w read]
    exact .inl rfl
  | ok parsed =>
    rw [use_decision_of_ok s w read]
    refine (Engine.left_decide w question.url (scriptHost parsed) steady).imp_right ?_
    rintro ⟨⟨message, broken⟩, fewer⟩
    exact ⟨⟨parsed, message, read, broken⟩, fewer⟩

variable {s} in
/-- **Levels never come back.** The lookups of a run leave no more levels than they find, but they leave
the last one; and they leave all of them where no host function breaks down. -/
theorem left_after (steady : s.engine.natives.Steady) (steps : List Step) :
    (s.after w steps).engine.left ≤ s.engine.left ∧
      (0 < s.engine.left → 0 < (s.after w steps).engine.left) ∧
      (s.Sound w steps → (s.after w steps).engine.left = s.engine.left) := by
  induction steps generalizing s w with
  | nil => exact ⟨Nat.le_refl _, id, fun _ => rfl⟩
  | cons step steps ih =>
    cases step with
    | change world =>
      obtain ⟨fewer, last, all⟩ := @ih s world steady
      refine ⟨fewer, last, fun sound => all fun front question back split => ?_⟩
      exact sound (.change world :: front) question back (congrArg (List.cons _) split)
    | ask question =>
      obtain ⟨machine, kept⟩ := after_eq s w [.ask question]
      have natives : (s.use (ask w question)).2.1.engine.natives = s.engine.natives :=
        congrArg (·.engine.natives) kept
      obtain ⟨fewer, last, all⟩ := @ih (s.use (ask w question)).2.1 w (natives ▸ steady)
      have behind : s.Sound w (.ask question :: steps) →
          (s.use (ask w question)).2.1.Sound w steps := fun sound front other back split =>
        sound (.ask question :: front) other back (congrArg (List.cons _) split)
      rw [after]
      rcases left_ask w steady question with same | ⟨broken, less, one⟩
      · rw [← same]
        exact ⟨fewer, last, fun sound => all (behind sound)⟩
      · exact ⟨Nat.le_trans fewer less, fun _ => last one,
          fun sound => absurd broken (sound [] question steps rfl)⟩

/-- **What levels the lookups of a run have**, of `levels` with which the session was opened. -/
structure Leveled (before behind : List Step) (levels : Nat) : Prop where
  /-- The decision function is called with the levels that are left. -/
  called : ∀ world url host,
    let engine := (s.after w before).engine
    engine.called world url host = engine.calledWithin world url host engine.left
  /-- All are left where no host function has broken down. -/
  all : s.Sound w before → (s.after w before).engine.left = levels
  /-- The last one is left in any case. -/
  last : 0 < levels → 0 < (s.after w before).engine.left
  /-- What has been taken is not given back. -/
  gone : (s.after w (before ++ behind)).engine.left ≤ (s.after w before).engine.left

/-- So it is for every session with steady host functions. -/
theorem leveled_of_open {supply : Source.Supply} {w' : World} {options : Options}
    {specifier : String} (opened : (Session.open supply w' options specifier).record.1 = .ok s)
    (steady : options.natives.Steady) (before behind : List Step) :
    s.Leveled w before behind options.limits.levels := by
  obtain ⟨_, loaded, _, _, started, _⟩ := exists_prepared opened
  obtain ⟨natives, limits, depth⟩ := Engine.start_depth steady (Engine.starts_iff.mp started)
  have new : s.engine.left = options.limits.levels := by
    rw [Engine.left, depth, limits, Nat.sub_zero]
  have own : s.engine.natives.Steady := natives ▸ steady
  obtain ⟨machine, kept⟩ := after_eq s w before
  have here : (s.after w before).engine.natives.Steady := by
    rw [kept]
    exact own
  obtain ⟨_, last, all⟩ := left_after w own before
  rw [new] at last all
  refine ⟨fun world url host => Engine.called_eq world url host here, all, last, ?_⟩
  rw [after_append]
  exact (left_after _ here behind).1

/-! ## One lookup in a run -/

/-- The decision for a URL at a point of a run. -/
def decisionAt (before : List Step) (url : String) : Outcome String :=
  ((s.after w before).use (decision (worldAfter w before) url)).1

/-- The answers to the questions behind a lookup at a point of a run. -/
def answersBehind (before : List Step) (url : String) (behind : List Step) :
    List (Outcome Answer) :=
  ((s.after w before).use (decision (worldAfter w before) url)).2.1.answers (worldAfter w before)
    behind

/-- **What a lookup at a point of a run does**, to the answers of the run and to the session. -/
structure Regular (before behind : List Step) (url : String) : Prop where
  /-- Nothing but the script's world has changed up to here. -/
  kept : ∃ machine, s.after w before = { s with engine := { s.engine with machine } }
  /-- Either question is answered from the decision for the URL, and the others have the answers that
  they have behind the other question. -/
  asked : ∀ question, question.url = url →
    s.answers w (before ++ .ask question :: behind) =
      s.answers w before ++
        question.answer s.credentials (s.decisionAt w before url) ::
          s.answersBehind w before url behind
  /-- A URL that cannot be read is refused, and the others have the answers that they have without
  it. -/
  refused : ∀ flaw, Url.parse url = .error flaw →
    s.decisionAt w before url = .error (refusedTarget url flaw) ∧
      s.answers w (before ++ behind) =
        s.answers w before ++ s.answersBehind w before url behind
  /-- With any other URL the decision function is called in the script's world as it is by now, and
  the session goes on with the world that the call leaves. -/
  evaluated : ∀ parsed, Url.parse url = .ok parsed →
    ∀ question, question.url = url →
      let here := s.after w before
      let call := here.engine.called (worldAfter w before) url (scriptHost parsed)
      s.decisionAt w before url = Engine.concluded call.1 ∧
        s.after w (before ++ [.ask question]) =
          { here with engine := { here.engine with machine := call.2 } }
  /-- In a session that was opened with steady host functions, the call has all the levels of calls,
  or those that are left of them where host functions have broken down. -/
  leveled : ∀ supply w' options specifier,
    (Session.open supply w' options specifier).record.1 = .ok s → options.natives.Steady →
      s.Leveled w before behind options.limits.levels

/-- **Every lookup of every run is regular.** So a question may be put the other way round, and
lookups for URLs that cannot be read may come and go, and no other answer changes; and after lookups
that have failed the next one is evaluated as any other, in the script's world as they have left it,
with the levels that are left. These are all of them, unless the host has broken down. -/
theorem lookup_regular (before behind : List Step) (url : String) :
    s.Regular w before behind url where
  kept := after_eq s w before
  asked := by
    rintro question rfl
    obtain ⟨machine, kept⟩ := after_eq s w before
    have table : (s.after w before).credentials = s.credentials := by rw [kept]
    obtain ⟨answer, left⟩ := use_ask (s.after w before) (worldAfter w before) question
    rw [answers_append, answers_ask, answer, left, table]
    rfl
  refused flaw unread := by
    have same := use_decision_of_error (s.after w before) (worldAfter w before) unread
    rw [decisionAt, answersBehind, same, answers_append]
    exact ⟨rfl, rfl⟩
  evaluated parsed read := by
    rintro question rfl
    have evaluation := use_decision_of_ok (s.after w before) (worldAfter w before) read
    rw [Engine.decide_eq] at evaluation
    refine ⟨by rw [decisionAt, evaluation], ?_⟩
    rw [after_append, after, (use_ask _ _ question).2, evaluation]
    rfl
  leveled _ _ _ _ opened steady := leveled_of_open s w opened steady before behind

/-- A host function that always breaks down. -/
def fragile : Native :=
  ⟨"repair", 0, fun _ _ _ => throw (.broken "out of order")⟩

theorem fragile_steady : fragile.Steady :=
  fun _ _ _ _ left _ _ => .broken left _

/-- So a script that breaks its host down at every lookup is called at the next one nevertheless, as long
as it is content with the levels that are left. -/
theorem lookup_regular_fragile :
    let options : Options := { Options.standard with natives := [fragile] }
    let specifier := "function FindProxyForURL(url, host) \x7b return repair(); \x7d"
    let w := World.isolated 0 0
    ∃ s, (Session.open (.ofFiles []) w options specifier).record.1 = .ok s ∧
      ∀ before behind, s.Leveled w before behind 256 ∧ 0 < (s.after w before).engine.left := by
  intro options specifier w
  have starts : (Session.open (.ofFiles []) w options specifier).record.1.isOk = true := by
    decide +kernel
  obtain ⟨s, opened⟩ := Outcome.exists_eq_ok starts
  refine ⟨s, opened, fun before behind => ?_⟩
  have leveled := (lookup_regular s w before behind "http://a/").leveled _ _ _ _ opened
    (List.forall_mem_singleton.mpr fragile_steady)
  exact ⟨leveled, leveled.last (by decide)⟩

/-- A script that goes down one level for every character of the URL but the last few, and breaks the
host down there if it is told to. -/
def descending : String :=
  "function FindProxyForURL(url, host) \x7b return url.length > 3
    ? FindProxyForURL(url.substring(1), host) : host === 'boom' ? repair() : 'DIRECT'; \x7d"

/-- **A host function that breaks down takes levels for good**: of two lookups for one URL the first is
answered, and the second, behind a lookup in which the host breaks down, exceeds the limit. -/
theorem breakdown_takes_levels :
    let options : Options := { Options.standard with natives := [fragile], limits := ⟨1000000, 13⟩ }
    let w := World.isolated 0 0
    let first := Step.ask (.decision "http://a/")
    let second := Step.ask (.decision "http://boom/")
    ∃ s, (Session.open (.ofFiles []) w options descending).record.1 = .ok s ∧
      s.decisionAt w [] "http://a/" = .ok "DIRECT" ∧
      s.decisionAt w [first] "http://boom/" =
        .error (.evaluation "native function panicked: out of order") ∧
      s.decisionAt w [first, second] "http://a/" = .error (.evaluation Script.Eval.limitText) := by
  intro options w first second
  have runs : (Session.open (.ofFiles []) w options descending).record.1.map (fun s =>
      (s.decisionAt w [] "http://a/", s.decisionAt w [first] "http://boom/",
        s.decisionAt w [first, second] "http://a/")) =
      .ok (.ok "DIRECT", .error (.evaluation "native function panicked: out of order"),
        .error (.evaluation Script.Eval.limitText)) := by
    decide +kernel
  obtain ⟨s, opened, decided⟩ := Outcome.map_eq_ok.mp runs
  obtain ⟨one, rest⟩ := Prod.mk.inj decided
  obtain ⟨two, three⟩ := Prod.mk.inj rest
  exact ⟨s, opened, one, two, three⟩

end ProxyAutoConfig.Session
