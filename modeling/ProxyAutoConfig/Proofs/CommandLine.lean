import ProxyAutoConfig.CommandLine
import ProxyAutoConfig.Proofs.Session.Steps

/-!
# What the command line prints

A run that succeeds prints a decision and then candidates, each from a lookup of its own: the
script is evaluated twice, and the second evaluation begins in the world that the first one has
left. So the candidates are those of the second decision (`printed_of_two_decisions`), and they
need not be those of the decision that stands above them (`printed_of_another_decision`).
-/

namespace ProxyAutoConfig.CommandLine

open ProxyAutoConfig.Session (decisionAt named)

/-- The first line stands in front of the others. -/
theorem lines_cons (l : String) (ls : List String) : lines (l :: ls) = l ++ "\n" ++ lines ls := by
  rw [lines, lines, List.map_cons, String.join_cons]

/-- Below one line, texts are one when the lines below it are. -/
theorem lines_cons_inj {l : String} {ls ls' : List String} :
    lines (l :: ls) = lines (l :: ls') ↔ lines ls = lines ls' := by
  rw [lines_cons, lines_cons]
  exact String.append_right_inj _

variable {supply : Source.Supply} {w : World} {environment : Environment} {args : List String}

/-- **The lookups of a run succeed when two decisions can be had**, and when the second one names
candidates; these are printed below the first one. -/
theorem lookUp_succeeded {level : Option Log.Level} {url : String} {session : Session}
    {opening : Journal} :
    (lookUp w level url session opening).exit = 0 ↔
      ∃ text text' found, session.decisionAt w [] url = .ok text ∧
        session.decisionAt w [.ask (.decision url)] url = .ok text' ∧
        named session.credentials text' = .ok found ∧
        (lookUp w level url session opening).output = lines (text :: found.map line) := by
  have again : session.decisionAt w [.ask (.decision url)] url =
      ((session.use (Session.decision w url)).2.1.use (Session.decision w url)).1 := by
    rw [decisionAt, Session.after, (Session.use_ask _ _ _).2]
    rfl
  obtain ⟨machine, left⟩ := Session.use_decision_eq session w url
  have table := congrArg Session.credentials left
  have first : session.decisionAt w [] url = (session.use (Session.decision w url)).1 := rfl
  rw [first, again]
  unfold lookUp
  generalize session.use (Session.decision w url) = one at table ⊢
  obtain ⟨failure | text, reached, journal⟩ := one
  · constructor
    · rintro ⟨⟩
    · rintro ⟨_, _, _, ⟨⟩, _⟩
  · simp only [Session.use_candidates]
    generalize reached.use (Session.decision w url) = two
    obtain ⟨failure | text', last, journal'⟩ := two
    · constructor
      · rintro ⟨⟩
      · rintro ⟨_, _, _, _, ⟨⟩, _⟩
    · have table : reached.credentials = session.credentials := table
      simp only [Outcome.ok_bind, table]
      cases read : named session.credentials text' with
      | error failure =>
        constructor
        · rintro ⟨⟩
        · rintro ⟨_, _, _, _, ⟨⟩, taken, _⟩
          rw [read] at taken
          cases taken
      | ok found => exact ⟨fun _ => ⟨text, text', found, rfl, rfl, read, rfl⟩, fun _ => rfl⟩

/-- With settings that can be read, and a session that can be opened, a run is its lookups. -/
theorem run_of_opened {specifier : String} {rest : List String} {overrides : Overrides}
    {session : Session} (settings : Overrides.ofEnvironment environment = .ok overrides)
    (opened : (Session.open supply w
      { Options.standard with overrides, authorities := rest.drop 1 } specifier).record.1 =
        .ok session) :
    ∃ opening, run supply w environment (specifier :: rest) =
      lookUp w overrides.logLevel (rest.head?.getD defaultUrl) session opening := by
  simp only [run, settings]
  generalize (Session.open _ _ _ _).record = outcome at opened
  obtain ⟨_, opening⟩ := outcome
  cases opened
  exact ⟨opening, rfl⟩

/-- No other run succeeds. -/
theorem exists_opened (ran : (run supply w environment args).exit = 0) :
    ∃ specifier rest overrides session,
      args = specifier :: rest ∧ Overrides.ofEnvironment environment = .ok overrides ∧
        (Session.open supply w { Options.standard with overrides, authorities := rest.drop 1 }
          specifier).record.1 = .ok session := by
  cases args with
  | nil => cases ran
  | cons specifier rest =>
    cases settings : Overrides.ofEnvironment environment with
    | error failure =>
      simp only [run, settings] at ran
      cases ran
    | ok overrides =>
      simp only [run, settings] at ran
      cases opened : (Session.open supply w
          { Options.standard with overrides, authorities := rest.drop 1 } specifier).record with
      | mk outcome opening =>
        rw [opened] at ran
        cases outcome with
        | error failure => cases ran
        | ok session =>
          exact ⟨specifier, rest, overrides, session, rfl, rfl, congrArg Prod.fst opened⟩

/-- **A run succeeds when two decisions can be had, one after the other**, and what it prints is the
first decision and the candidates of the second, which the script makes in the world that the first
one has left. These are the candidates of the decision that is printed exactly when the two decisions
name candidates that are printed alike, as they do where they are the same. -/
theorem printed_of_two_decisions :
    (run supply w environment args).exit = 0 ↔
      ∃ specifier rest overrides session text text' found,
        args = specifier :: rest ∧ Overrides.ofEnvironment environment = .ok overrides ∧
        (Session.open supply w { Options.standard with overrides, authorities := rest.drop 1 }
          specifier).record.1 = .ok session ∧
        let url := rest.head?.getD defaultUrl
        session.decisionAt w [] url = .ok text ∧
        session.decisionAt w [.ask (.decision url)] url = .ok text' ∧
        named session.credentials text' = .ok found ∧
        (run supply w environment args).output = lines (text :: found.map line) ∧
        ((∃ own, named session.credentials text = .ok own ∧
            (run supply w environment args).output = lines (text :: own.map line)) ↔
          ∃ own, named session.credentials text = .ok own ∧
            lines (own.map line) = lines (found.map line)) := by
  constructor
  · intro ran
    obtain ⟨specifier, rest, overrides, session, rfl, settings, opened⟩ := exists_opened ran
    obtain ⟨opening, same⟩ := run_of_opened settings opened
    rw [same] at ran ⊢
    obtain ⟨text, text', found, first, again, read, output⟩ := lookUp_succeeded.mp ran
    refine ⟨specifier, rest, overrides, session, text, text', found, rfl, settings, opened, first,
      again, read, output, ?_⟩
    simp only [output, lines_cons_inj, eq_comm]
  · rintro ⟨specifier, rest, overrides, session, text, text', found, rfl, settings, opened, first,
      again, read, output, -⟩
    obtain ⟨opening, same⟩ := run_of_opened settings opened
    rw [same] at output ⊢
    exact lookUp_succeeded.mpr ⟨text, text', found, first, again, read, output⟩

/-- A script that decides otherwise when it is asked again. -/
def fickle : String :=
  "var n = 0; function FindProxyForURL(url, host) \x7b n = n + 1; " ++
    "return n === 1 ? 'DIRECT' : 'PROXY h:1'; \x7d"

/-- What is left of a run with that script. -/
def fickleReport : Report :=
  run (.ofFiles []) (World.isolated 0 0) [] [fickle, "http://a/"]

/-- **The candidates need not be those of the decision that is printed**: below a direct connection
stands a proxy, and not the one candidate that a direct connection is. -/
theorem printed_of_another_decision :
    fickleReport.exit = 0 ∧ fickleReport.output = lines ["DIRECT", "PROXY http://h:1"] ∧
      ∀ found, named .empty "DIRECT" = .ok found →
        fickleReport.output ≠ lines ("DIRECT" :: found.map line) := by
  have ran : (fickleReport.exit, fickleReport.output) =
      (0, lines ["DIRECT", "PROXY http://h:1"]) := by
    decide +kernel
  obtain ⟨exit, output⟩ := Prod.mk.inj ran
  have direct : named .empty "DIRECT" = .ok [Candidate.bare .direct] := rfl
  have below : lines ["PROXY http://h:1"] ≠ lines ["DIRECT"] := by decide
  refine ⟨exit, output, fun found read same => ?_⟩
  obtain rfl := Except.ok.inj (read.symm.trans direct)
  rw [output, lines_cons_inj] at same
  exact below same

end ProxyAutoConfig.CommandLine
