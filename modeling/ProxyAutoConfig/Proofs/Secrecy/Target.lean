import ProxyAutoConfig.Proofs.Secrecy.Address
import ProxyAutoConfig.Proofs.Session.Lookup

/-!
# The password of a target

A URL that is looked up may have a login of its own. Where the URL cannot be read it stands in the
failure with its password hidden, and in no event. Where the evaluation fails the URL stands in an
event as it was given, password and all (`urlsHeard_of_failed`); so two URLs that differ in the
password alone are told apart by the event of a failed evaluation, and by nothing else
(`target_shown_iff_failed`).
-/

namespace ProxyAutoConfig

/-! ## URLs in events -/

/-- The name of the field that shows a URL. -/
def urlField : String := "url"

/-- The URLs that an event shows. -/
def Log.Event.urls (event : Log.Event) : List String :=
  (event.fields.filter (·.1 == urlField)).map Prod.snd

/-- The event without the URLs that it shows. -/
def Log.Event.withoutUrls (event : Log.Event) : Log.Event :=
  { event with fields := event.fields.filter (·.1 != urlField) }

namespace Journal

/-- The URLs that a listener hears of. -/
def urlsHeard (limit : Log.Level) (j : Journal) : List String :=
  ((j.caller ++ j.engine).filter (·.heardAt limit)).flatMap Log.Event.urls

/-- The events of a journal without the URLs that they show. -/
def withoutUrls (j : Journal) : List Log.Event × List Log.Event :=
  (j.caller.map Log.Event.withoutUrls, j.engine.map Log.Event.withoutUrls)

end Journal

/-- URLs that look alike have one host, as a script sees it. -/
theorem Url.Alike.scriptHost_eq {a b : Url} (alike : a.Alike b) :
    Session.scriptHost a = Session.scriptHost b := by
  obtain ⟨url, _⟩ := alike
  rfl

namespace Session

/-- Candidates are announced without a URL. -/
theorem urls_foundEvent {c : Candidate} {event : Log.Event} (told : foundEvent? c = some event) :
    event.urls = [] := by
  obtain ⟨uri, -, rfl⟩ := Option.map_eq_some_iff.mp told
  rfl

/-- So no URL is heard of when they are. -/
theorem urlsHeard_foundJournal (limit : Log.Level) (j : Journal)
    (outcome : Outcome (List Candidate)) :
    (foundJournal j outcome).urlsHeard limit = j.urlsHeard limit := by
  cases outcome with
  | error failure => rfl
  | ok found =>
    have nothing : ((found.filterMap foundEvent?).filter (·.heardAt limit)).flatMap
        Log.Event.urls = [] := by
      rw [List.flatMap_eq_nil_iff]
      intro event heard
      obtain ⟨c, -, told⟩ := List.mem_filterMap.mp (List.mem_filter.mp heard).1
      exact urls_foundEvent told
    simp only [Journal.urlsHeard, foundJournal, List.filter_append, List.flatMap_append, nothing,
      List.append_nil]

/-- Without their URLs, journals are told apart by no announcement behind them. -/
theorem withoutUrls_foundJournal {j j' : Journal} (same : j.withoutUrls = j'.withoutUrls)
    (outcome : Outcome (List Candidate)) :
    (foundJournal j outcome).withoutUrls = (foundJournal j' outcome).withoutUrls := by
  obtain ⟨caller, engine⟩ := Prod.mk.inj same
  cases outcome with
  | error failure => exact same
  | ok found =>
    simp only [Journal.withoutUrls, foundJournal, List.map_append, caller]
    exact congrArg _ engine

variable (s : Session) (w : World)

/-! ## Lookups that fail -/

/-- **The evaluation for a URL fails**: the URL can be read, and the decision function is absent,
throws, returns no value, exceeds a limit or breaks its host down. -/
def FailsFor (url : String) : Prop :=
  ∃ parsed failure, Url.parse url = .ok parsed ∧
    (s.engine.decide w url (scriptHost parsed)).1 = .error failure

/-- Then the engine reports it. -/
theorem journal_of_failed {url : String} (failed : s.FailsFor w url) :
    ∃ failure, (s.use (decision w url)).2.2 = evaluationJournal url (.error failure) := by
  obtain ⟨parsed, failure, read, failed⟩ := failed
  rw [use_decision_of_ok s w read, failed]
  exact ⟨failure, rfl⟩

/-- Where it does not fail, nothing is reported; nor is it where the URL cannot be read. -/
theorem journal_of_not_failed {url : String} (sound : ¬ s.FailsFor w url) :
    (s.use (decision w url)).2.2 = .empty := by
  cases read : Url.parse url with
  | error flaw => rw [use_decision_of_error s w read]
  | ok parsed =>
    rw [use_decision_of_ok s w read]
    cases outcome : (s.engine.decide w url (scriptHost parsed)).1 with
    | ok text => rfl
    | error failure => exact absurd ⟨parsed, failure, read, outcome⟩ sound

/-- So the reports of the engine tell whether it has failed. -/
theorem failsFor_iff_engine {url : String} :
    s.FailsFor w url ↔ (s.use (decision w url)).2.2.engine ≠ [] := by
  constructor
  · intro failed
    obtain ⟨failure, told⟩ := journal_of_failed s w failed
    rw [told]
    exact List.cons_ne_nil _ _
  · intro told
    by_contra sound
    exact told (congrArg Journal.engine (journal_of_not_failed s w sound))

/-- **The URL of a lookup is heard of as it was given where the evaluation fails**, by whoever hears
warnings. -/
theorem urlsHeard_of_failed {url : String} (failed : s.FailsFor w url) (limit : Log.Level) :
    (s.use (decision w url)).2.2.urlsHeard limit =
      if Log.Level.warn.rank ≤ limit.rank then [url] else [] := by
  obtain ⟨failure, told⟩ := journal_of_failed s w failed
  rw [told, evaluationJournal, Journal.urlsHeard, Journal.addEngine, Journal.empty, List.nil_append,
    List.nil_append, List.filter_singleton, Log.Event.heardAt]
  by_cases hears : Log.Level.warn.rank ≤ limit.rank
  · rw [decide_eq_true hears, if_pos hears]
    rfl
  · rw [decide_eq_false hears, if_neg hears]
    rfl

/-- **Where it does not fail, no URL is heard of.** -/
theorem urlsHeard_of_not_failed {url : String} (sound : ¬ s.FailsFor w url) (limit : Log.Level) :
    (s.use (decision w url)).2.2.urlsHeard limit = [] := by
  rw [journal_of_not_failed s w sound]
  rfl

/-- Of whichever question, the URLs that are heard of are those of the lookup for the decision. -/
theorem urlsHeard_ask (question : Question) (limit : Log.Level) :
    (s.use (ask w question)).2.2.urlsHeard limit =
      (s.use (decision w question.url)).2.2.urlsHeard limit := by
  rw [journal_ask]
  cases question with
  | decision url => rfl
  | candidates url => exact urlsHeard_foundJournal limit _ _

/-! ## Targets that look alike -/

/-- **The script treats two URLs alike**: what comes of the evaluation is the same for both. -/
def TreatsAlike (url url' : String) : Prop :=
  ∀ parsed, Url.parse url = .ok parsed →
    (s.engine.decide w url (scriptHost parsed)).1 = (s.engine.decide w url' (scriptHost parsed)).1

/-- A question with another URL. -/
def Question.about (url : String) : Question → Question
  | .decision _ => .decision url
  | .candidates _ => .candidates url

theorem Question.url_about (url : String) (question : Question) :
    (question.about url).url = url := by
  cases question <;> rfl

variable {s w} {url url' : String}

/-- **Lookups for two such URLs are answered alike**, and but for the URLs in their events nothing
tells what they leave in the journal apart. -/
theorem TreatsAlike.decision_alike (alike : s.TreatsAlike w url url')
    (login : Url.LoginAlike url url') :
    (s.use (decision w url)).1 = (s.use (decision w url')).1 ∧
      (s.use (decision w url)).2.2.withoutUrls = (s.use (decision w url')).2.2.withoutUrls := by
  have parses := Url.parse_alike login
  cases read : Url.parse url with
  | error flaw =>
    rw [read] at parses
    cases read' : Url.parse url' with
    | ok parsed => rw [read'] at parses; cases parses
    | error flaw' =>
      rw [read'] at parses
      cases parses
      rw [use_decision_of_error s w read, use_decision_of_error s w read', refusedTarget,
        refusedTarget, login.uriText_eq]
      exact ⟨rfl, rfl⟩
  | ok parsed =>
    have outcome := alike parsed read
    rw [read] at parses
    cases read' : Url.parse url' with
    | error flaw => rw [read'] at parses; cases parses
    | ok parsed' =>
      rw [read'] at parses
      cases parses with
      | ok urls =>
        rw [urls.scriptHost_eq] at outcome
        rw [use_decision_of_ok s w read, use_decision_of_ok s w read', urls.scriptHost_eq, outcome]
        refine ⟨rfl, ?_⟩
        cases (s.engine.decide w url' (scriptHost parsed')).1 with
        | ok text => rfl
        | error failure => rfl

/-- The evaluation fails for both, or for none. -/
theorem TreatsAlike.failsFor_iff (alike : s.TreatsAlike w url url')
    (login : Url.LoginAlike url url') : s.FailsFor w url ↔ s.FailsFor w url' := by
  have events := congrArg (·.2 = []) (alike.decision_alike login).2
  simp only [Journal.withoutUrls, List.map_eq_nil_iff, eq_iff_iff] at events
  exact (failsFor_iff_engine s w).trans
    ((not_congr events).trans (failsFor_iff_engine s w).symm)

/-- **The password of a target is shown where the evaluation fails, and nowhere else.** Take two URLs
that differ in a password alone, by letters and digits in its place, and a script that treats them
alike. A lookup has one answer for both, and but for the URLs in its events it leaves the same
journal. The URLs that a listener hears of are the same for both, unless the evaluation fails and the
listener hears warnings. -/
theorem target_shown_iff_failed (login : Url.LoginAlike url url')
    (alike : s.TreatsAlike w url url') (question : Question) :
    (s.use (ask w (question.about url))).1 = (s.use (ask w (question.about url'))).1 ∧
      (s.use (ask w (question.about url))).2.2.withoutUrls =
        (s.use (ask w (question.about url'))).2.2.withoutUrls ∧
      ∀ limit, (s.use (ask w (question.about url))).2.2.urlsHeard limit =
          (s.use (ask w (question.about url'))).2.2.urlsHeard limit ↔
        url = url' ∨ ¬ (s.FailsFor w url ∧ Log.Level.warn.rank ≤ limit.rank) := by
  obtain ⟨answers, journals⟩ := alike.decision_alike login
  refine ⟨?_, ?_, fun limit => ?_⟩
  · rw [(use_ask s w _).1, (use_ask s w _).1, Question.url_about, Question.url_about, answers]
    cases question <;> rfl
  · rw [journal_ask, journal_ask, Question.url_about, Question.url_about, answers]
    cases question with
    | decision _ => exact journals
    | candidates _ => exact withoutUrls_foundJournal journals _
  · have both := alike.failsFor_iff login
    rw [urlsHeard_ask, urlsHeard_ask, Question.url_about, Question.url_about]
    by_cases failed : s.FailsFor w url
    · rw [urlsHeard_of_failed s w failed, urlsHeard_of_failed s w (both.mp failed)]
      by_cases hears : Log.Level.warn.rank ≤ limit.rank
      · simp only [hears, if_true, List.cons.injEq, and_true, failed, not_true, or_false]
      · simp only [hears, if_false, and_false, not_false_eq_true, or_true]
    · rw [urlsHeard_of_not_failed s w failed, urlsHeard_of_not_failed s w (mt both.mpr failed)]
      exact ⟨fun _ => .inr fun told => failed told.1, fun _ => rfl⟩

/-! ## A script that always throws -/

/-- A script that throws whatever it is asked. -/
def throwing : String :=
  "function FindProxyForURL(url, host) \x7b throw 'x'; \x7d"

/-- What comes of opening a session with it. -/
def openedThrowing : Outcome Session :=
  (Session.open (.ofFiles []) (World.isolated 0 0) Options.standard throwing).record.1

/-- The failure of a lookup with it. -/
def thrown : Failure :=
  .evaluation "\"x\""

/-- A target with a password. -/
def target (password : String) : String :=
  "http://u:" ++ password ++ "@h/"

theorem target_alike : Url.LoginAlike (target "secret") (target "sesame") :=
  @Url.LoginAlike.words "http".toList ['u'] "secret".toList "sesame".toList
    ⟨by decide, by decide, Text.forall_of_any_eq_false (by decide)⟩ (by decide) (by decide) rfl
    "h/".toList

/-- A script sees the host of such a target, whichever of the two passwords it has. -/
theorem exists_parse_target {password : String} (known : password ∈ ["secret", "sesame"]) :
    ∃ parsed, Url.parse (target password) = .ok parsed ∧ scriptHost parsed = "h" := by
  have hosts : ∀ password ∈ ["secret", "sesame"],
      (Url.parse (target password)).map scriptHost = .ok "h" := by
    decide +kernel
  exact Outcome.map_eq_ok.mp (hosts password known)

/-- A session is opened with it, and throws for either target. -/
theorem exists_openedThrowing : ∃ s, openedThrowing = .ok s ∧
    ∀ password ∈ ["secret", "sesame"],
      (s.engine.decide (World.isolated 0 0) (target password) "h").1 = .error thrown := by
  have outcomes : openedThrowing.map (fun s => ["secret", "sesame"].map fun password =>
      (s.engine.decide (World.isolated 0 0) (target password) "h").1) =
        .ok [.error thrown, .error thrown] := by
    decide +kernel
  obtain ⟨s, opened, both⟩ := Outcome.map_eq_ok.mp outcomes
  obtain ⟨first, second⟩ := List.cons.inj both
  exact ⟨s, opened, List.forall_mem_cons.mpr
    ⟨first, List.forall_mem_singleton.mpr (List.cons.inj second).1⟩⟩

/-- So the evaluation fails for either, and alike for both. -/
theorem exists_throwing : ∃ s, openedThrowing = .ok s ∧
    (∀ password ∈ ["secret", "sesame"], s.FailsFor (World.isolated 0 0) (target password)) ∧
      s.TreatsAlike (World.isolated 0 0) (target "secret") (target "sesame") := by
  obtain ⟨s, opened, throws⟩ := exists_openedThrowing
  refine ⟨s, opened, fun password known => ?_, fun parsed read => ?_⟩
  · obtain ⟨parsed, read, host⟩ := exists_parse_target known
    exact ⟨parsed, thrown, read, host ▸ throws password known⟩
  · obtain ⟨parsed', read', host⟩ := exists_parse_target List.mem_cons_self
    obtain rfl := Except.ok.inj (read.symm.trans read')
    rw [host, throws "secret" (by decide), throws "sesame" (by decide)]

/-- Then the two are told apart by whoever hears warnings. -/
theorem target_shown_throwing : ∃ s, openedThrowing = .ok s ∧ ∀ (question : Question) limit,
    ((s.use (ask (World.isolated 0 0) (question.about (target "secret")))).2.2.urlsHeard limit =
        (s.use (ask (World.isolated 0 0) (question.about (target "sesame")))).2.2.urlsHeard limit ↔
      ¬ Log.Level.warn.rank ≤ limit.rank) := by
  obtain ⟨s, opened, fails, alike⟩ := exists_throwing
  refine ⟨s, opened, fun question limit => ?_⟩
  have differ : target "secret" ≠ target "sesame" := by decide
  have failed := fails "secret" (by decide)
  rw [(target_shown_iff_failed target_alike alike question).2.2 limit]
  simp only [differ, failed, false_or, true_and]

/-- **A listener for warnings hears the password of a target**: that of a lookup whose evaluation
fails, though the text of the URL is the same for both passwords wherever it is shown redacted. -/
theorem target_password_shown : ∃ s, openedThrowing = .ok s ∧
    Url.LoginAlike (target "secret") (target "sesame") ∧
    s.TreatsAlike (World.isolated 0 0) (target "secret") (target "sesame") ∧
    (∀ password ∈ ["secret", "sesame"],
      Redaction.uriText (target password) = "http://u:******@h/" ∧
      (s.use (ask (World.isolated 0 0) (.decision (target password)))).2.2.urlsHeard .warn =
        [target password]) ∧
    target "secret" ≠ target "sesame" := by
  obtain ⟨s, opened, fails, alike⟩ := exists_throwing
  have shown : ∀ password ∈ ["secret", "sesame"],
      Redaction.uriText (target password) = "http://u:******@h/" := by
    decide +kernel
  refine ⟨s, opened, target_alike, alike, fun password known => ⟨shown password known, ?_⟩,
    by decide⟩
  have heard := urlsHeard_of_failed s _ (fails password known) .warn
  rw [if_pos (by decide)] at heard
  rw [urlsHeard_ask, Question.url]
  exact heard

end Session

end ProxyAutoConfig
