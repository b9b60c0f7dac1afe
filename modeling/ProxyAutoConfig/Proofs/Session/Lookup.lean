import ProxyAutoConfig.Proofs.Engine
import ProxyAutoConfig.Proofs.Proxy.Kinds
import ProxyAutoConfig.Proofs.Session.Run

/-!
# One lookup

What a lookup does to a session, and what it leaves in the journal. Both questions, that for the
decision and that for the candidates, begin with one and the same evaluation of the script: the
session that they leave is that of the evaluation (`use_candidates`), and the candidates are read
from the decision with nothing but the session's table at hand. A URL that cannot be read is
refused before the script is asked (`use_decision_of_error`).

So a question is answered from the decision for its URL (`use_ask`), and fails only because
something in it is malformed or because the evaluation has failed (`ask_fails`).
-/

namespace ProxyAutoConfig.Session

open ProxyAutoConfig.Script ProxyAutoConfig.Text

/-! ## The decision -/

/-- A URL that a lookup refuses, in redacted form. -/
def refusedTarget (url : String) (flaw : Url.Flaw) : Failure :=
  .invalidUrl (Redaction.uriText url) flaw.message

/-- What the evaluation of a script leaves in the journal: nothing, unless it fails. -/
def evaluationJournal (url : String) : Outcome String → Journal
  | .ok _ => .empty
  | .error failure => Journal.empty.addEngine .warn "PAC evaluation failed"
      [("url", url), ("error", failure.message)]

variable (s : Session) (w : World)

/-- **A URL that cannot be read never reaches the script.** -/
theorem use_decision_of_error {url : String} {flaw : Url.Flaw}
    (unread : Url.parse url = .error flaw) :
    s.use (decision w url) = (.error (refusedTarget url flaw), s, .empty) := by
  simp only [use, decision, unread]
  rfl

/-- **A URL that can be read is handed to the script**, and the session goes on with the engine that
the evaluation leaves, whatever came of it. -/
theorem use_decision_of_ok {url : String} {parsed : Url} (read : Url.parse url = .ok parsed) :
    s.use (decision w url) =
      ((s.engine.decide w url (scriptHost parsed)).1,
        { s with engine := (s.engine.decide w url (scriptHost parsed)).2 },
        evaluationJournal url (s.engine.decide w url (scriptHost parsed)).1) := by
  have state : (get : Lookup Use) ⟨s, .empty⟩ = .ok ⟨s, .empty⟩ ⟨s, .empty⟩ := rfl
  simp only [use, decision, read]
  rw [Outcome.bind_of_ok state]
  simp only
  generalize s.engine.decide w url (scriptHost parsed) = evaluated
  obtain ⟨failure | text, engine⟩ := evaluated
  · rfl
  · rfl

/-- Of a session, a lookup changes nothing but the machine of its engine. -/
theorem use_decision_eq (url : String) :
    ∃ machine, (s.use (decision w url)).2.1 = { s with engine := { s.engine with machine } } := by
  cases read : Url.parse url with
  | error flaw =>
    rw [use_decision_of_error s w read]
    exact ⟨s.engine.machine, rfl⟩
  | ok parsed =>
    rw [use_decision_of_ok s w read, Engine.decide_eq]
    exact ⟨_, rfl⟩

/-! ## The candidates -/

/-- The candidates that a decision names, with the credentials of a table. -/
def named (table : CredentialTable) (text : String) : Outcome (List Candidate) :=
  parseDecision text >>= table.associate

/-- The event of a candidate that has a proxy. -/
def foundEvent? (c : Candidate) : Option Log.Event :=
  c.uri?.map fun uri =>
    ⟨.debug, "found proxy", [("mode", c.mode.word), ("proxy", uri.redacted)]⟩

/-- The journal of an evaluation, and the events of the candidates behind it. -/
def foundJournal (j : Journal) : Outcome (List Candidate) → Journal
  | .ok found => { j with caller := j.caller ++ found.filterMap foundEvent? }
  | .error _ => j

/-- Announce a candidate that has a proxy. -/
def announce (c : Candidate) : Lookup Unit := do
  if let some uri := c.uri? then
    note (·.addCaller .debug "found proxy" [("mode", c.mode.word), ("proxy", uri.redacted)])

/-- An announcement is an event of the caller, and changes nothing else. -/
theorem announce_eq (c : Candidate) (u : Use) :
    announce c u = .ok () { u with journal := foundJournal u.journal (.ok [c]) } := by
  cases proxy : c.uri? with
  | none =>
    have silent : foundEvent? c = none := by rw [foundEvent?, proxy, Option.map_none]
    simp only [announce, proxy, foundJournal, List.filterMap_cons_none silent, List.filterMap_nil,
      List.append_nil]
    rfl
  | some uri =>
    have told : foundEvent? c = some
        ⟨.debug, "found proxy", [("mode", c.mode.word), ("proxy", uri.redacted)]⟩ := by
      rw [foundEvent?, proxy, Option.map_some]
    simp only [announce, proxy, foundJournal, List.filterMap_cons_some told, List.filterMap_nil]
    rfl

/-- Candidates are announced in their order. -/
theorem forM_announce (found : List Candidate) (u : Use) :
    found.forM announce u =
      .ok () { u with journal := foundJournal u.journal (.ok found) } := by
  induction found generalizing u with
  | nil =>
    simp only [foundJournal, List.filterMap_nil, List.append_nil]
    rfl
  | cons c found ih =>
    show EStateM.bind (announce c) (fun _ => found.forM announce) u = _
    rw [EStateM.bind, announce_eq]
    simp only [ih, foundJournal, List.append_assoc, ← List.filterMap_append,
      List.singleton_append]

/-- Announce candidates, or say why there are none. -/
def announceAll : Outcome (List Candidate) → Lookup (List Candidate)
  | .error failure => throw failure
  | .ok found => do
    found.forM announce
    return found

/-- **The candidates are read from the decision that the same lookup for the decision would have
given**, and the session is left as that lookup leaves it. -/
theorem use_candidates (url : String) :
    s.use (candidates w url) =
      match s.use (decision w url) with
      | (outcome, after, j) =>
        (outcome >>= named s.credentials, after,
          foundJournal j (outcome >>= named s.credentials)) := by
  have table : ∀ {text u}, decision w url ⟨s, .empty⟩ = .ok text u →
      u.session.credentials = s.credentials := by
    intro text u decided
    cases read : Url.parse url with
    | error flaw =>
      have same := use_decision_of_error s w read
      rw [use, decided] at same
      cases same
    | ok parsed =>
      have same := use_decision_of_ok s w read
      rw [use, decided] at same
      exact congrArg (·.2.1.credentials) same
  have shape : candidates w url = (do
      let text ← decision w url
      let u ← get
      announceAll (named u.session.credentials text)) := rfl
  rw [use, use, shape]
  cases decided : decision w url ⟨s, .empty⟩ with
  | error failure u =>
    rw [Outcome.bind_of_error decided]
    rfl
  | ok text u =>
    have state : (get : Lookup Use) u = .ok u u := rfl
    rw [Outcome.bind_of_ok decided, Outcome.bind_of_ok state]
    simp only [table decided, Outcome.ok_bind]
    cases named s.credentials text with
    | error failure => rfl
    | ok found =>
      simp only [announceAll]
      rw [Outcome.bind_of_ok (forM_announce found u)]
      rfl

/-! ## Questions -/

/-- The URL that a question is about. -/
def Question.url : Question → String
  | .decision url | .candidates url => url

/-- What a question makes of the decision for its URL. -/
def Question.answer (table : CredentialTable) (outcome : Outcome String) :
    Question → Outcome Answer
  | .decision _ => outcome.map Answer.decision
  | .candidates _ => (outcome >>= named table).map Answer.candidates

/-- The outcome of a computation whose result is put into another form. -/
theorem use_map {α β : Type} (x : Lookup α) (f : α → β) :
    s.use (do return f (← x)) = ((s.use x).1.map f, (s.use x).2) := by
  rw [use, use]
  cases outcome : x ⟨s, .empty⟩ with
  | ok a u => rw [Outcome.bind_of_ok outcome]; rfl
  | error failure u => rw [Outcome.bind_of_error outcome]; rfl

/-- **A question is answered from the decision for its URL**, and the session is left as the lookup
for the decision leaves it. -/
theorem use_ask (question : Question) :
    (s.use (ask w question)).1 =
        question.answer s.credentials (s.use (decision w question.url)).1 ∧
      (s.use (ask w question)).2.1 = (s.use (decision w question.url)).2.1 := by
  cases question with
  | decision url =>
    have asked : s.use (ask w (.decision url)) = _ := use_map s (decision w url) Answer.decision
    rw [asked]
    exact ⟨rfl, rfl⟩
  | candidates url =>
    have asked : s.use (ask w (.candidates url)) = _ :=
      use_map s (candidates w url) Answer.candidates
    rw [asked, use_candidates]
    exact ⟨rfl, rfl⟩

/-- What a question adds to the journal of the lookup for the decision. -/
def Question.journal (table : CredentialTable) (outcome : Outcome String) (j : Journal) :
    Question → Journal
  | .decision _ => j
  | .candidates _ => foundJournal j (outcome >>= named table)

/-- The journal of a question begins with that of the lookup for the decision. -/
theorem journal_ask (question : Question) :
    (s.use (ask w question)).2.2 =
      question.journal s.credentials (s.use (decision w question.url)).1
        (s.use (decision w question.url)).2.2 := by
  cases question with
  | decision url =>
    have asked : s.use (ask w (.decision url)) = _ := use_map s (decision w url) Answer.decision
    rw [asked]
    rfl
  | candidates url =>
    have asked : s.use (ask w (.candidates url)) = _ :=
      use_map s (candidates w url) Answer.candidates
    rw [asked, use_candidates]
    rfl

/-! ## Kinds of failures -/

/-- The lookup for a decision fails for the URL, or because the evaluation does. -/
theorem decision_fails (url : String) :
    Outcome.FailsAs [.invalid, .evaluationFailed] (s.use (decision w url)).1 := by
  cases read : Url.parse url with
  | error flaw =>
    rw [use_decision_of_error s w read]
    exact .error List.mem_cons_self
  | ok parsed =>
    rw [use_decision_of_ok s w read, Engine.decide_eq]
    intro failure failed
    rw [Engine.kind_of_concluded failed]
    exact List.mem_cons_of_mem _ List.mem_cons_self

/-- **A lookup fails because something is malformed, or because the evaluation has failed.** -/
theorem ask_fails (question : Question) :
    Outcome.FailsAs [.invalid, .evaluationFailed] (s.use (ask w question)).1 := by
  have decided := decision_fails s w question.url
  rw [(use_ask s w question).1]
  cases question with
  | decision url => exact decided.map
  | candidates url =>
    have read : ∀ text, Outcome.FailsAs [.invalid] (named s.credentials text) := fun text =>
      (parseDecision_fails text).bind s.credentials.associate_fails
    exact (decided.bind fun text =>
      (read text).mono (List.cons_subset_cons _ (List.nil_subset _))).map

end ProxyAutoConfig.Session
