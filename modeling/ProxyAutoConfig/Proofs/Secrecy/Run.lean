import ProxyAutoConfig.Proofs.Secrecy.Load
import ProxyAutoConfig.Proofs.Secrecy.Table
import ProxyAutoConfig.Proofs.Session.Run

/-!
# Runs side by side

Two complete runs whose inputs look alike: the authorities that are declared, the credential for
downloads and the specifier differ in passwords and in nothing else, and the world is the same.
Then the runs look alike from outside: they fail at the same steps in the same way, decide the
same, leave the same events and show the same session. The passwords are seen in the
candidates' addresses and in the headers of requests, where they are sent, and nowhere else.

A step keeps sessions alike (`ask_alike`), and so do all the steps of a run (`turns_alike`).
-/

namespace ProxyAutoConfig

open ProxyAutoConfig.Net ProxyAutoConfig.Text

/-! ## Inputs -/

structure Overrides.Alike (o p : Overrides) : Prop where
  authorities : Option.Rel (List.Forall₂ Url.LoginAlike) o.authorities p.authorities
  download : Option.Rel Credential.Alike o.download p.download
  logLevel : o.logLevel = p.logLevel

/-- **Options that look alike**: they differ in the passwords of authorities and of the credential
for downloads. -/
structure Options.Alike (o p : Options) : Prop where
  authorities : List.Forall₂ Url.LoginAlike o.authorities p.authorities
  overrides : o.overrides.Alike p.overrides
  natives : o.natives = p.natives
  limits : o.limits = p.limits

/-- The authorities that count look alike. -/
theorem Options.Alike.effective {o p : Options} (alike : o.Alike p) :
    List.Forall₂ Url.LoginAlike o.effective p.effective := by
  have overrides := alike.overrides.authorities
  rw [Options.effective, Options.effective, Overrides.effective, Overrides.effective]
  generalize o.overrides.authorities = x, p.overrides.authorities = y at overrides
  cases overrides with
  | none => exact alike.authorities
  | some related => exact related

namespace Session

variable {T : String → String → Prop}

/-! ## Opening -/

/-- **Sessions that look alike**: they differ in the passwords of their tables, and in nothing that is
told of them. -/
structure Alike (T : String → String → Prop) (s t : Session) : Prop where
  source : s.source = t.source
  content : s.content = t.content
  credentials : s.credentials.Alike t.credentials
  told : s.credentials.ToldAlike T t.credentials s.order t.order
  engine : s.engine = t.engine

/-- **Sessions that look alike are shown in the same way.** -/
theorem Alike.detail {s t : Session} (alike : s.Alike T t) : T s.detail t.detail := by
  unfold Session.detail
  rw [alike.source]
  exact alike.told _ (fun _ _ => CredentialTable.detailEntry_eq) _ _

variable {supply supply' : Source.Supply} {options options' : Options}
  {specifier specifier' : String}

/-- **Sessions are opened alike.** -/
theorem open_alike (same : options.Alike options')
    (specifiers : Source.SpecifierAlike specifier specifier')
    (lead : supply.LeadAlike supply' (Source.requestOf? options.overrides.download specifier)
      (Source.requestOf? options'.overrides.download specifier'))
    (told : ∀ a b, CredentialTable.ofAuthorities options.effective = .ok a → a.Alike b →
      a.ToldAlike T b supply.order supply'.order) (w : World) :
    Paired (Journal.Alike T Download.Alike) (Alike T) (Session.open supply w options specifier)
      (Session.open supply' w options' specifier') := by
  have blank : isAllBlank specifier.toList = isAllBlank specifier'.toList := by
    by_cases equal : specifier = specifier'
    · rw [equal]
    · obtain ⟨here, there⟩ := specifiers.remote equal
      rw [Source.isAllBlank_of_remote here, Source.isAllBlank_of_remote there]
  unfold Session.open
  rw [blank, same.natives, same.limits]
  split
  · exact Paired.throw _
  · have declared := (CredentialTable.ofAuthorities_alike same.effective).imp fun a b made tables =>
      And.intro tables (told a b made tables)
    refine (Paired.ofOutcome declared).bind ?_
    rintro table table' ⟨tables, told⟩
    have downloads := Source.attempt_alike specifiers.text same.overrides.download lead
    refine (Source.load_alike specifiers same.overrides.download lead.toAgree downloads).bind ?_
    rintro loaded _ rfl
    refine (Paired.report _ _ _).bind fun _ _ _ => ?_
    refine (Paired.ofOutcome (Outcome.Alike.refl (fun _ => rfl) _)).bind ?_
    rintro engine _ rfl
    refine (Paired.modify fun _ _ journals => journals.addEngine).bind fun _ _ _ => ?_
    have listed := told _ (fun _ _ => CredentialTable.shownEntry_eq) "" ""
    simp only [String.empty_append, String.append_empty] at listed
    refine (Paired.modify fun _ _ journals => journals.addReady loaded.label listed).bind ?_
    exact fun _ _ _ => Paired.pure ⟨rfl, rfl, tables, told, rfl⟩

/-! ## Asking -/

/-- Uses of a session that look alike. -/
structure Use.Alike (T : String → String → Prop) (u v : Use) : Prop where
  session : u.session.Alike T v.session
  journal : u.journal.Alike T Download.Alike v.journal

/-- Answers that look alike: one decision, or candidates that look alike. -/
inductive Answer.Alike : Answer → Answer → Prop
  | decision (text : String) : Alike (.decision text) (.decision text)
  | candidates {list list' : List Candidate} : List.Forall₂ Candidate.Alike list list' →
      Alike (.candidates list) (.candidates list')

/-- One note is made in both journals. -/
theorem note_alike {f g : Journal → Journal}
    (keeps : ∀ j k, j.Alike T Download.Alike k → (f j).Alike T Download.Alike (g k)) :
    Paired (Use.Alike T) (fun _ _ => True) (note f) (note g) :=
  Paired.modify fun _ _ uses => ⟨uses.session, keeps _ _ uses.journal⟩

/-- **Sessions that look alike decide the same.** -/
theorem decision_alike (w : World) (url : String) :
    Paired (Use.Alike T) Eq (decision w url) (decision w url) := by
  unfold decision
  cases Url.parse url with
  | error flaw => exact Paired.throw _
  | ok parsed =>
    refine Paired.get.bind fun u v uses => ?_
    simp only [uses.session.engine]
    generalize v.session.engine.decide w url (scriptHost parsed) = decided
    obtain ⟨outcome, engine⟩ := decided
    have after : Use.Alike T { u with session := { u.session with engine } }
        { v with session := { v.session with engine } } :=
      ⟨⟨uses.session.source, uses.session.content, uses.session.credentials, uses.session.told, rfl⟩,
        uses.journal⟩
    refine (Paired.set after).bind fun _ _ _ => ?_
    cases outcome with
    | ok text => exact Paired.pure rfl
    | error failure =>
      refine (note_alike fun _ _ journals => journals.addEngine).bind fun _ _ _ => ?_
      exact Paired.throw _

/-- **Sessions that look alike find candidates that look alike.** -/
theorem candidates_alike (w : World) (url : String) :
    Paired (Use.Alike T) (List.Forall₂ Candidate.Alike) (candidates w url) (candidates w url) := by
  unfold candidates
  refine (decision_alike w url).bind ?_
  rintro text _ rfl
  refine Paired.get.bind fun u v uses => ?_
  have associated : Outcome.Alike (List.Forall₂ Candidate.Alike)
      (parseDecision text >>= u.session.credentials.associate)
      (parseDecision text >>= v.session.credentials.associate) := by
    refine (Outcome.Alike.refl (fun _ => rfl) (parseDecision text)).bind ?_
    rintro found _ rfl
    exact uses.session.credentials.associate found
  simp only
  generalize parseDecision text >>= u.session.credentials.associate = x,
    parseDecision text >>= v.session.credentials.associate = y at associated
  cases associated with
  | error failure => exact Paired.throw _
  | ok found =>
    refine (Paired.forM ?_ found).bind fun _ _ _ => Paired.pure found
    intro c d alike
    have uris := alike.uri?
    generalize c.uri? = x, d.uri? = y at uris
    cases uris with
    | none => exact Paired.pure trivial
    | some uris =>
      simp only [alike.mode, uris.redacted_eq]
      exact note_alike fun _ _ journals => journals.addCaller

/-- **A step keeps sessions alike**, and its answers look alike. -/
theorem ask_alike (w : World) (question : Question) :
    Paired (Use.Alike T) Answer.Alike (ask w question) (ask w question) := by
  cases question with
  | decision url =>
    refine (decision_alike w url).bind ?_
    rintro text _ rfl
    exact Paired.pure (.decision text)
  | candidates url =>
    exact (candidates_alike w url).bind fun _ _ found => Paired.pure (.candidates found)

/-! ## Whole runs -/

/-- **Turns that look alike**: answers and journals that look alike, and texts of the session of which
`T` holds. -/
structure Turn.Alike (T : String → String → Prop) (t u : Turn) : Prop where
  answer : Outcome.Alike Answer.Alike t.answer u.answer
  journal : t.journal.Alike T Download.Alike u.journal
  detail : T t.detail u.detail

/-- **Transcripts that look alike**: the session was opened under one name, with one content and
texts of itself of which `T` holds, or failed to open in one way; turn by turn the answers look alike;
and so do all journals. -/
structure Transcript.Alike (T : String → String → Prop) (t u : Transcript) : Prop where
  opened : Outcome.Alike
    (fun r s => r.source = s.source ∧ r.content = s.content ∧ T r.detail s.detail) t.opened u.opened
  opening : t.opening.Alike T Download.Alike u.opening
  turns : List.Forall₂ (Turn.Alike T) t.turns u.turns

/-- **All the steps of a run look alike.** -/
theorem turns_alike {s t : Session} (alike : s.Alike T t) (steps : List (World × Question)) :
    List.Forall₂ (Turn.Alike T) (s.turns steps) (t.turns steps) := by
  -- The sessions that a step leaves are alike again, and the rest of the run begins with them.
  induction steps generalizing s t with
  | nil => exact .nil
  | cons step rest ih =>
    obtain ⟨w, question⟩ := step
    have stand := ask_alike w question ⟨s, Journal.empty⟩ ⟨t, Journal.empty⟩ ⟨alike, .empty⟩
    rw [turns, turns, use, use]
    generalize ask w question ⟨s, Journal.empty⟩ = x, ask w question ⟨t, Journal.empty⟩ = y at stand
    cases stand with
    | ok answers uses =>
      exact .cons ⟨.ok answers, uses.journal, uses.session.detail⟩ (ih uses.session)
    | error failure uses =>
      exact .cons ⟨.error failure, uses.journal, uses.session.detail⟩ (ih uses.session)

/-- Listeners hear alike of transcripts that look alike, at every level. -/
theorem Transcript.Alike.heard {t u : Transcript} (alike : t.Alike T u) (limit : Log.Level) :
    List.Forall₂ (Log.Event.Alike T) (t.heard limit) (u.heard limit) := by
  have journals : List.Forall₂ (Journal.Alike T Download.Alike) t.journals u.journals :=
    .cons alike.opening (List.forall₂_map_left_iff.mpr
      (List.forall₂_map_right_iff.mpr (alike.turns.imp fun _ _ turns => turns.journal)))
  have events : List.Forall₂ (Log.Event.Alike T) (t.journals.flatMap fun j => j.caller ++ j.engine)
      (u.journals.flatMap fun j => j.caller ++ j.engine) := by
    generalize t.journals = js, u.journals = ks at journals
    induction journals with
    | nil => exact .nil
    | cons here _ ih =>
      rw [List.flatMap_cons, List.flatMap_cons, here.engine]
      refine List.rel_append (List.rel_append here.caller ?_) ih
      exact List.forall₂_same.mpr fun event _ => .same event
  refine List.rel_filter (fun p q events => ?_) events
  cases events <;> exact Iff.rfl

/-- Events that tell the same in the same texts are the same. -/
theorem eq_of_events {list list' : List Log.Event} (events : List.Forall₂ (Log.Event.Alike Eq) list list') :
    list = list' := by
  refine List.forall₂_eq_eq_eq ▸ events.imp fun p q alike => ?_
  cases alike with
  | same => rfl
  | ready source same => rw [same]

/-- **Runs look alike** where sessions are told alike. -/
theorem transcript_alike_of_told (same : options.Alike options')
    (specifiers : Source.SpecifierAlike specifier specifier')
    (lead : supply.LeadAlike supply' (Source.requestOf? options.overrides.download specifier)
      (Source.requestOf? options'.overrides.download specifier'))
    (told : ∀ a b, CredentialTable.ofAuthorities options.effective = .ok a → a.Alike b →
      a.ToldAlike T b supply.order supply'.order) (w : World) (steps : List (World × Question)) :
    (transcript supply w options specifier steps).Alike T
      (transcript supply' w options' specifier' steps) := by
  have stand := open_alike same specifiers lead told w _ _ .empty
  rw [transcript, transcript, Recorded.record, Recorded.record]
  generalize Session.open supply w options specifier Journal.empty = x,
    Session.open supply' w options' specifier' Journal.empty = y at stand
  cases stand with
  | ok sessions journals =>
    exact ⟨.ok ⟨sessions.source, sessions.content, sessions.detail⟩, journals,
      turns_alike sessions steps⟩
  | error failure journals => exact ⟨.error failure, journals, .nil⟩

/-- **Passwords do not influence what is shown.** Take two complete runs in one world whose inputs
differ in passwords alone, by letters and digits in their place: those of the authorities that are
passed or that the environment has, that of the environment's credential for downloads, and that in
the web address of the script. Both runs open a session under one name and with one content, or fail
to in one way; after it every question has one answer, up to the passwords in candidates, or fails in
one way. Listeners hear the same events at every level, requests differ in the password in their
header alone, and the session is shown in one text all the time, as far as its credentials are listed
in one order: this has nothing to do with passwords. Where the runs list them in different orders, the
event and the text in which they are listed have the same parts. -/
theorem transcript_alike (same : options.Alike options')
    (specifiers : Source.SpecifierAlike specifier specifier')
    (lead : supply.LeadAlike supply' (Source.requestOf? options.overrides.download specifier)
      (Source.requestOf? options'.overrides.download specifier')) (w : World)
    (steps : List (World × Question)) :
    ((transcript supply w options specifier steps).Alike CredentialTable.Rearranged
        (transcript supply' w options' specifier' steps) ∧
      ∀ limit, List.Forall₂ (Log.Event.Alike CredentialTable.Rearranged)
        ((transcript supply w options specifier steps).heard limit)
        ((transcript supply' w options' specifier' steps).heard limit)) ∧
    (supply.order = supply'.order ∨ options.effective.length ≤ 1 →
      (transcript supply w options specifier steps).Alike Eq
        (transcript supply' w options' specifier' steps) ∧
      ∀ limit, (transcript supply w options specifier steps).heard limit =
        (transcript supply' w options' specifier' steps).heard limit) := by
  constructor
  · have alike := transcript_alike_of_told same specifiers lead
      (fun _ _ _ tables => tables.toldAlike_rearranged supply.order supply'.order) w steps
    exact ⟨alike, alike.heard⟩
  · intro settled
    have alike := transcript_alike_of_told same specifiers lead (fun a b made tables =>
      tables.toldAlike_eq (settled.imp_right (CredentialTable.size_le_of_ofAuthorities made).trans))
      w steps
    exact ⟨alike, fun limit => eq_of_events (alike.heard limit)⟩

/-- So a script that is downloaded with either of two passwords, for proxies with either of two
others, is used alike, and is heard and shown in one way by a table with an order of its own. -/
theorem transcript_alike_remote :
    let script := "function FindProxyForURL(url, host) \x7b return 'SOCKS h:1'; \x7d"
    let supply : Source.Supply :=
      { reply := fun _ => some ⟨200, Utf8.encode script.toList⟩, file := fun _ => none,
        order := ⟨List.reverse, List.reverse_perm⟩ }
    let options : Options := { Options.standard with
      authorities := ["socks://u:abc@h:1", "http://v:one@k:2"],
      overrides := ⟨none, some ⟨"n", "x1", by decide⟩, none⟩ }
    let options' : Options := { Options.standard with
      authorities := ["socks://u:123@h:1", "http://v:two@k:2"],
      overrides := ⟨none, some ⟨"n", "y2", by decide⟩, none⟩ }
    let w := World.isolated 0 0
    let steps := [(w, Question.decision "http://a/"), (w, Question.candidates "http://a/")]
    (transcript supply w options "https://me:first@h/wpad.dat" steps).Alike Eq
      (transcript supply w options' "https://me:other@h/wpad.dat" steps) ∧
    ∀ limit, (transcript supply w options "https://me:first@h/wpad.dat" steps).heard limit =
      (transcript supply w options' "https://me:other@h/wpad.dat" steps).heard limit := by
  intro script supply options options' w steps
  have authority : Url.LoginAlike "socks://u:abc@h:1" "socks://u:123@h:1" :=
    @Url.LoginAlike.words "socks".toList ['u'] "abc".toList "123".toList
      ⟨by decide, by decide, forall_of_any_eq_false (by decide)⟩ (by decide) (by decide) rfl
      "h:1".toList
  have other : Url.LoginAlike "http://v:one@k:2" "http://v:two@k:2" :=
    @Url.LoginAlike.words "http".toList ['v'] "one".toList "two".toList
      ⟨by decide, by decide, forall_of_any_eq_false (by decide)⟩ (by decide) (by decide) rfl
      "k:2".toList
  have text : Url.LoginAlike "https://me:first@h/wpad.dat" "https://me:other@h/wpad.dat" :=
    @Url.LoginAlike.words "https".toList "me".toList "first".toList "other".toList
      ⟨by decide, by decide, forall_of_any_eq_false (by decide)⟩ (by decide) (by decide) rfl
      "h/wpad.dat".toList
  have download : Credential.Alike ⟨"n", "x1", by decide⟩ ⟨"n", "y2", by decide⟩ :=
    ⟨rfl, @Text.Alike.words "x1".toList "y2".toList (by decide) (by decide) rfl []⟩
  have same : options.Alike options' :=
    ⟨.cons authority (.cons other .nil), ⟨.none, .some download, rfl⟩, rfl, rfl⟩
  have specifiers : Source.SpecifierAlike "https://me:first@h/wpad.dat"
      "https://me:other@h/wpad.dat" := ⟨text, fun _ => by decide⟩
  have lead : supply.LeadAlike supply (Source.requestOf? options.overrides.download
      "https://me:first@h/wpad.dat") (Source.requestOf? options'.overrides.download
      "https://me:other@h/wpad.dat") := ⟨⟨fun _ _ _ _ => rfl, rfl⟩, fun _ _ _ _ => .nil⟩
  exact (transcript_alike same specifiers lead w steps).2 (.inl rfl)

end Session

end ProxyAutoConfig
