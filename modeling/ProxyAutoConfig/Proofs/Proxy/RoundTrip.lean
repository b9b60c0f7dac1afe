import ProxyAutoConfig.Proofs.Proxy.Directive
import ProxyAutoConfig.Proofs.Proxy.Schemes
import ProxyAutoConfig.Proofs.Url.Reread

/-!
# Decisions written out and read again

The candidates of a decision are shown as directives, a mode and perhaps a proxy, and joined by
semicolons. What has been joined may be read again. **The law**, `decisionText_read_back`: it gives
candidates that are shown as the first ones were exactly when the text of every proxy is an address
of it.

There are four ways in which it is not. What was encoded in a host is shown decoded, so that a
semicolon may stand there, and ends the directive. The fragment is not shown, so that no word of a
scheme may be left in the address, and it gets the scheme of its mode. A name may be written in
ASCII in a way that is not read. And a drive at the front of a file's path takes the place of the
host. `ProxyUri.IsStable` excludes these, and nothing else.

A candidate's own text is what it is judged by: it must give the candidate, and then it is one
directive, so that the others are read from what stands behind it.
-/

namespace ProxyAutoConfig

open ProxyAutoConfig.Text

/-! ## Proxies -/

namespace ProxyUri

variable {uri : ProxyUri}

/-- An address is read as the proxy whose URL it is. -/
theorem parse_eq_ok {address : String} :
    parse address = .ok uri ↔ Url.parse address = .ok uri.url := by
  refine ⟨url_of_parse, fun read => ?_⟩
  simp only [parse, read, ofUrl?, dif_pos (And.intro uri.hierarchical uri.hosted)]

/-- User information as it stands in the text of a proxy. -/
theorem toList_userinfoText (uri : ProxyUri) :
    (uri.userinfoText id).toList = Url.Userinfo.shown ⟨uri.url.username, uri.url.password⟩ := by
  rw [userinfoText, Url.Userinfo.shown, Url.Userinfo.login]
  by_cases nameless : uri.url.username = ""
  · rw [if_pos nameless, if_pos nameless]
    rfl
  · rw [if_neg nameless, if_neg nameless]
    cases uri.url.password with
    | none => simp only [String.toList_append, Option.elim_none, List.append_nil]; rfl
    | some password =>
      simp only [String.toList_append, Option.elim_some, List.append_assoc]
      rfl

/-- **The text of a proxy** is its scheme and what its URL shows behind two slashes. -/
theorem toList_text (uri : ProxyUri) :
    uri.text.toList = uri.scheme.toList ++ ':' :: '/' :: '/' :: uri.url.shown := by
  have path : (if uri.url.path.text = "/" then "" else uri.url.path.text).toList =
      uri.url.path.shown := by
    rw [Path.shown]
    split <;> rfl
  have query : (Url.tailText "?" uri.url.query).toList = Url.queryText uri.url.query := by
    cases uri.url.query with
    | none => rfl
    | some query => exact String.toList_append
  have host : uri.url.hostText?.getD "" = uri.host := by rw [uri.hostText?_eq]; rfl
  simp only [text, render, String.toList_append, path, query, toList_userinfoText, Url.shown,
    Url.Parts.text, Url.Parts.place, Url.parts, host, List.append_assoc]
  rfl

/-- A proxy as it is read from its text. -/
def reread (uri : ProxyUri) : ProxyUri where
  url := uri.url.reread
  hierarchical := Url.isOpaque_ofText ..
  hosted := uri.hosted

/-- Once read again, a proxy is shown as it was. -/
theorem text_reread (written : uri.url.IsWritten) : uri.reread.text = uri.text := by
  have info : Url.Userinfo.shown (Url.Userinfo.kept ⟨uri.url.username, uri.url.password⟩) =
      Url.Userinfo.shown ⟨uri.url.username, uri.url.password⟩ := by
    rw [Url.Userinfo.kept]
    split
    · next nameless => rw [Url.Userinfo.shown, Url.Userinfo.shown, if_pos rfl, if_pos nameless]
    · rfl
  have shown : uri.reread.url.shown = uri.url.shown := by
    simp only [Url.shown, Url.Parts.text, Url.Parts.place, Url.parts]
    rw [← info, ← Path.shown_ofText_shown written.path]
    rfl
  rw [← String.toList_inj, toList_text, toList_text, shown]
  rfl

/-- **The text of a proxy is an address of it.** No semicolon stands in it and a word of a scheme
does, the name of the host is its own ASCII form, and no drive stands in front of the path of a
file. -/
structure IsStable (uri : ProxyUri) : Prop where
  single : ';' ∉ uri.text.toList
  named : Candidate.namesScheme uri.text.toList = true
  ascii : ∀ host ∈ uri.url.host, host.IsOwnAscii (Scheme.kind uri.scheme).isSpecial
  driveless : uri.scheme = "file" → uri.url.path.beginsWithDrive = false

instance : Decidable uri.IsStable :=
  decidable_of_iff
    (';' ∉ uri.text.toList ∧ Candidate.namesScheme uri.text.toList = true ∧
      (∀ host ∈ uri.url.host, host.IsOwnAscii (Scheme.kind uri.scheme).isSpecial) ∧
      (uri.scheme = "file" → uri.url.path.beginsWithDrive = false))
    ⟨fun ⟨single, named, ascii, driveless⟩ => ⟨single, named, ascii, driveless⟩,
      fun stable => ⟨stable.single, stable.named, stable.ascii, stable.driveless⟩⟩

/-- Such a text is read as the proxy. -/
theorem parse_text (written : uri.url.IsWritten) (stable : uri.IsStable) :
    parse uri.text = .ok uri.reread :=
  parse_eq_ok.mpr (written.parse_shown stable.ascii stable.driveless uri.toList_text)

/-- The text of a proxy is visible. -/
theorem isVisible_text (written : uri.url.IsWritten) : ∀ c ∈ uri.text.toList, IsVisible c := by
  have scheme : ∀ c ∈ uri.scheme.toList, IsVisible c := fun c mem =>
    Url.of_isSchemeChar (by decide) (written.chars c mem)
  rw [toList_text]
  exact List.forall_mem_append.mpr ⟨scheme, List.forall_mem_cons.mpr ⟨by decide,
    List.forall_mem_cons.mpr ⟨by decide, List.forall_mem_cons.mpr ⟨by decide,
      written.isVisible_shown⟩⟩⟩⟩

/-- So no blank stands in it. -/
theorem isBlank_text (written : uri.url.IsWritten) : ∀ c ∈ uri.text.toList, isBlank c = false :=
  fun c mem => of_ascii (P := fun c => 0x20 < c.toNat → isBlank c = false) (by decide)
    (isVisible_text written c mem).2 (isVisible_text written c mem).1

/-- The scheme of a mode is a word that shows that an address has one. -/
theorem namesScheme_of_prefix {mode : Mode} {scheme : String} {address : List Char}
    (brings : mode.defaultScheme? = some scheme) (front : scheme.toList <+: address) :
    Candidate.namesScheme address = true := by
  have word : scheme ∈ Candidate.schemeWords := by cases mode <;> cases brings <;> decide
  exact List.any_eq_true.mpr ⟨scheme, word, holds_iff.mpr front.isInfix⟩

/-- The scheme of a proxy stands in front of the first semicolon of its text. -/
theorem scheme_prefix (written : uri.url.IsWritten) {front back : List Char}
    (whole : uri.text.toList = front ++ back) (ends : ∀ c ∈ back.head?, c = ';') :
    uri.scheme.toList <+: front := by
  have semicolon : ';' ∉ uri.scheme.toList := fun mem =>
    absurd (written.chars ';' mem) (by decide)
  rw [uri.toList_text] at whole
  rcases List.append_eq_append_iff.mp whole with ⟨more, same, -⟩ | ⟨more, same, behind⟩
  · exact ⟨more, same.symm⟩
  · cases more with
    | nil =>
      rw [List.append_nil] at same
      exact ⟨[], by rw [same, List.append_nil]⟩
    | cons c rest =>
      rw [ends c (behind ▸ rfl)] at same
      exact absurd (same ▸ List.mem_append_right _ List.mem_cons_self) semicolon

/-- **A proxy that is shown as what is read from its text up to a semicolon** has a text that is an
address of it. -/
theorem isStable_of_parse_front {mode : Mode} {again : ProxyUri} (written : uri.url.IsWritten)
    (proxied : mode ≠ .direct) {front back : List Char} (whole : uri.text.toList = front ++ back)
    (plain : ';' ∉ front) (ends : ∀ c ∈ back.head?, c = ';')
    (read : parse (Candidate.withScheme mode front) = .ok again)
    (scheme : uri.scheme = again.scheme) (host : uri.host = again.host)
    (text : uri.text = again.text) : uri.IsStable := by
  obtain ⟨default, brings⟩ := Mode.exists_defaultScheme? proxied
  have named : Candidate.namesScheme front = true := by
    cases wordless : Candidate.namesScheme front with
    | true => rfl
    | false =>
      rw [Candidate.withScheme_of_wordless brings wordless] at read
      have prefixed : (default ++ "://" ++ String.ofList front).toList =
          default.toList ++ ':' :: '/' :: '/' :: front := by
        simp only [String.toList_append, String.toList_ofList, List.append_assoc]
        rfl
      have own := Url.scheme_of_parse (Mode.isWrittenScheme_of_defaultScheme? brings) prefixed
        (url_of_parse read)
      have same : uri.scheme = default := scheme.trans own
      have held := namesScheme_of_prefix brings (same ▸ scheme_prefix written whole ends)
      rw [wordless] at held
      cases held
  rw [Candidate.withScheme_of_plain (.inr named)] at read
  have nothing : back = [] := by
    cases back with
    | nil => rfl
    | cons c rest =>
      obtain rfl := ends c rfl
      rw [text, again.toList_text] at whole
      exact absurd whole
        (Url.shown_ne_append_semicolon (url_of_parse read) again.hosted plain)
  rw [nothing, List.append_nil] at whole
  rw [← whole, String.ofList_toList] at read
  have hosts : again.url.hostText? = uri.url.hostText? := by
    rw [again.hostText?_eq, uri.hostText?_eq, host]
  obtain ⟨ascii, driveless⟩ := written.of_parse_shown uri.toList_text (url_of_parse read) hosts
  exact ⟨whole ▸ plain, whole ▸ named, ascii, driveless⟩

end ProxyUri

/-! ## Candidates -/

namespace Candidate

variable {candidate : Candidate}

/-- **Candidates that are shown alike**: with one mode and one text, and with proxies at one place
under one scheme, or without any. -/
structure ShownAs (a b : Candidate) : Prop where
  mode_eq : a.mode = b.mode
  text_eq : a.text = b.text
  uri? : Option.Rel (fun p q => p.scheme = q.scheme ∧ p.host = q.host ∧ p.port? = q.port?)
    a.uri? b.uri?

/-- Whatever proxy a candidate has, its URL is written. -/
def IsWritten (candidate : Candidate) : Prop :=
  ∀ uri ∈ candidate.uri?, uri.url.IsWritten

/-- Whatever proxy a candidate has, its text is an address of it. -/
def IsStable (candidate : Candidate) : Prop :=
  ∀ uri ∈ candidate.uri?, uri.IsStable

/-- A mode alone has no proxy. -/
theorem uri?_bare (mode : Mode) : (bare mode).uri? = none :=
  ite_self none

/-- The words of modes are words. -/
theorem solid_word (mode : Mode) :
    mode.word.toList ≠ [] ∧ ∀ c ∈ mode.word.toList, isBlank c = false ∧ c ≠ ';' := by
  cases mode <;> exact ⟨by decide, List.all_iff_forall_prop.mp (by decide)⟩

/-- The word of a mode is a directive. -/
theorem ofDirective_word (mode : Mode) :
    ofDirective mode.word.toList = .ok [bare mode] := by
  obtain ⟨nonempty, solid⟩ := solid_word mode
  rw [ofDirective, fields_singleton nonempty fun c mem => (solid c mem).1]
  simp only [String.ofList_toList, Mode.parse_word]
  rfl

/-- So is the word of a mode with an address behind a blank. -/
theorem ofDirective_word_address (mode : Mode) {address : List Char} (nonempty : address ≠ [])
    (blankless : ∀ c ∈ address, isBlank c = false) :
    ofDirective (mode.word.toList ++ ' ' :: address) = (ofAddress mode address).map ([·]) := by
  obtain ⟨given, solid⟩ := solid_word mode
  rw [ofDirective, fields_pair given nonempty (fun c mem => (solid c mem).1) blankless]
  simp only [String.ofList_toList, Mode.parse_word, Outcome.ok_bind]
  cases ofAddress mode address <;> rfl

/-- A candidate with a proxy is no direct connection, and shows the proxy behind its mode. -/
theorem toList_text_of_uri? {uri : ProxyUri} (here : candidate.uri? = some uri) :
    candidate.mode ≠ .direct ∧
      candidate.text.toList = candidate.mode.word.toList ++ ' ' :: uri.text.toList := by
  refine ⟨fun direct => ?_, ?_⟩
  · rw [uri?, if_pos direct] at here
    cases here
  · rw [text, render, here]
    simp only [String.toList_append, List.append_assoc]
    rfl

/-- **The text of a candidate gives a candidate that is shown alike.** -/
theorem exists_parseDecision_text (written : candidate.IsWritten) (stable : candidate.IsStable) :
    ∃ again, parseDecision candidate.text = .ok [again] ∧ candidate.ShownAs again := by
  obtain ⟨-, solid⟩ := solid_word candidate.mode
  cases target : candidate.uri? with
  | none =>
    have word : candidate.text = candidate.mode.word := by rw [text, render, target]
    refine ⟨bare candidate.mode, ?_, rfl, ?_, ?_⟩
    · rw [word, parseDecision_of_not_mem fun mem => (solid ';' mem).2 rfl, ofDirective_word]
    · rw [word, text, render, uri?_bare]
      rfl
    · rw [target, uri?_bare]
      exact .none
  | some uri =>
    obtain ⟨proxied, chars⟩ := toList_text_of_uri? target
    have shaped := written uri target
    obtain ⟨single, named, own, driveless⟩ := stable uri target
    have nonempty : uri.text.toList ≠ [] := by
      rw [uri.toList_text]
      exact List.append_ne_nil_of_right_ne_nil _ (List.cons_ne_nil _ _)
    have one : ';' ∉ candidate.text.toList := by
      rw [chars, List.mem_append, List.mem_cons]
      rintro (word | blank | address)
      · exact (solid ';' word).2 rfl
      · cases blank
      · exact single address
    let again : Candidate := ⟨candidate.mode, uri.text, some uri.reread⟩
    have target' : again.uri? = some uri.reread := if_neg proxied
    refine ⟨again, ?_, rfl, ?_, ?_⟩
    · rw [parseDecision_of_not_mem one, chars,
        ofDirective_word_address _ nonempty (ProxyUri.isBlank_text shaped), ofAddress_eq,
        withScheme_of_plain (.inr named), String.ofList_toList,
        ProxyUri.parse_text shaped ⟨single, named, own, driveless⟩]
      rfl
    · rw [← String.toList_inj, chars, (toList_text_of_uri? target').2,
        ProxyUri.text_reread shaped]
    · rw [target, target']
      exact .some ⟨rfl, rfl, rfl⟩

/-- **A candidate that is shown as the first one that its text gives** has a text that is an
address of its proxy. -/
theorem isStable_of_parseDecision_text (written : candidate.IsWritten)
    {candidates : List Candidate} (read : parseDecision candidate.text = .ok candidates)
    (more : List Candidate) {again : Candidate} (front : again ∈ (candidates ++ more).head?)
    (alike : candidate.ShownAs again) : candidate.IsStable := by
  intro uri target
  obtain ⟨proxied, chars⟩ := toList_text_of_uri? target
  obtain ⟨-, solid⟩ := solid_word candidate.mode
  have shaped := written uri target
  obtain ⟨address, rest, whole, plain, ends⟩ := exists_append_mark ';' uri.text.toList
  have blankless : ∀ c ∈ address, isBlank c = false := fun c mem =>
    ProxyUri.isBlank_text shaped c (whole ▸ List.mem_append_left _ mem)
  have nonempty : address ≠ [] := fun empty => by
    have begins := ProxyUri.scheme_prefix shaped whole ends
    rw [empty, List.prefix_nil] at begins
    have spelled := shaped.spelled
    rw [show uri.url.scheme.toList = [] from begins] at spelled
    cases spelled
  have cut : candidate.text.toList = candidate.mode.word.toList ++ ' ' :: address ++ rest := by
    rw [chars, whole, List.append_assoc, List.cons_append]
  have single : ';' ∉ candidate.mode.word.toList ++ ' ' :: address := by
    rw [List.mem_append, List.mem_cons]
    rintro (word | blank | mem)
    · exact (solid ';' word).2 rfl
    · cases blank
    · exact plain mem
  obtain ⟨here, there, taken, rfl⟩ := exists_of_parseDecision_front cut single ends read
  rw [ofDirective_word_address _ nonempty blankless] at taken
  cases given : ofAddress candidate.mode address with
  | error failure =>
    rw [given] at taken
    cases taken
  | ok found =>
    rw [given] at taken
    obtain rfl := Except.ok.inj taken
    obtain rfl := Option.some.inj front
    obtain ⟨other, parsed, rfl⟩ := ofAddress_eq_ok.mp given
    have shown : Candidate.uri? ⟨candidate.mode, withScheme candidate.mode address, some other⟩ =
        some other := if_neg proxied
    have texts := congrArg String.toList alike.text_eq
    rw [chars, (toList_text_of_uri? shown).2] at texts
    have text : uri.text = other.text :=
      String.toList_inj.mp (List.cons.inj (List.append_cancel_left texts)).2
    have places := alike.uri?
    rw [target, shown] at places
    cases places with
    | some same =>
      exact ProxyUri.isStable_of_parse_front shaped proxied whole plain ends parsed same.1 same.2.1
        text

end Candidate

namespace Directive

/-- The proxy of a directive's candidate is written. -/
theorem isWritten_of_read {directive : Directive} {candidate : Candidate}
    (done : directive.read = .ok candidate) : candidate.IsWritten := by
  obtain ⟨token, address?⟩ := directive
  obtain ⟨mode, -, rest⟩ := Outcome.bind_eq_ok.mp done
  intro uri here
  cases address? with
  | none =>
    obtain rfl := Except.ok.inj rest
    cases (Candidate.uri?_bare mode).symm.trans here
  | some field =>
    obtain ⟨read, parsed, rfl⟩ := Candidate.ofAddress_eq_ok.mp rest
    rw [Candidate.uri?] at here
    split at here
    · cases here
    · obtain rfl := Option.some.inj here
      exact Url.isWritten_of_parse (ProxyUri.url_of_parse parsed) read.hosted

end Directive

/-! ## Decisions -/

/-- Candidates as a decision: their texts, with a semicolon and a blank between them. -/
def decisionText (candidates : List Candidate) : String :=
  "; ".intercalate (candidates.map Candidate.text)

/-- Texts of several candidates are read one after the other. -/
theorem parseDecision_decisionText_cons (first second : Candidate) (rest : List Candidate) :
    parseDecision (decisionText (first :: second :: rest)) = (do
      let here ← parseDecision first.text
      let there ← parseDecision (decisionText (second :: rest))
      return here ++ there) := by
  have pieces : decisionText (first :: second :: rest) =
      first.text ++ ";" ++ (" " ++ decisionText (second :: rest)) := by
    rw [decisionText, List.map_cons, List.map_cons, String.intercalate_cons_cons,
      String.append_assoc, String.append_assoc]
    rfl
  rw [pieces, parseDecision_semicolon, parseDecision_space]

/-- What is read from the texts of candidates is shown as these are. -/
theorem exists_parseDecision_decisionText {candidates : List Candidate}
    (written : ∀ candidate ∈ candidates, candidate.IsWritten)
    (stable : ∀ candidate ∈ candidates, candidate.IsStable) :
    ∃ again, parseDecision (decisionText candidates) = .ok again ∧
      List.Forall₂ Candidate.ShownAs candidates again := by
  induction candidates with
  | nil => exact ⟨[], rfl, .nil⟩
  | cons first rest ih =>
    obtain ⟨first_written, rest_written⟩ := List.forall_mem_cons.mp written
    obtain ⟨first_stable, rest_stable⟩ := List.forall_mem_cons.mp stable
    obtain ⟨again, here, alike⟩ := Candidate.exists_parseDecision_text first_written first_stable
    cases rest with
    | nil =>
      have alone : decisionText [first] = first.text := String.intercalate_singleton
      exact ⟨[again], alone ▸ here, .cons alike .nil⟩
    | cons second rest =>
      obtain ⟨others, there, alikes⟩ := ih rest_written rest_stable
      refine ⟨again :: others, ?_, .cons alike alikes⟩
      rw [parseDecision_decisionText_cons, here, there]
      rfl

/-- The proxies of a decision are written. -/
theorem isWritten_of_parseDecision {decision : String} {candidates : List Candidate}
    (read : parseDecision decision = .ok candidates) :
    ∀ candidate ∈ candidates, candidate.IsWritten := by
  rw [parseDecision_eq] at read
  exact Outcome.forall_of_mapM (fun _ _ => Directive.isWritten_of_read) read

/-- Candidates that are shown alike make one text. -/
theorem decisionText_eq {candidates again : List Candidate}
    (alike : List.Forall₂ Candidate.ShownAs candidates again) :
    decisionText candidates = decisionText again := by
  have texts : candidates.map Candidate.text = again.map Candidate.text := by
    induction alike with
    | nil => rfl
    | cons here _ ih => rw [List.map_cons, List.map_cons, here.text_eq, ih]
  rw [decisionText, decisionText, texts]

/-- What is shown as what is read from its text has texts that are addresses. -/
theorem isStable_of_parseDecision_decisionText {candidates again : List Candidate}
    (written : ∀ candidate ∈ candidates, candidate.IsWritten)
    (read : parseDecision (decisionText candidates) = .ok again)
    (alike : List.Forall₂ Candidate.ShownAs candidates again) :
    ∀ candidate ∈ candidates, candidate.IsStable := by
  induction candidates generalizing again with
  | nil => exact List.forall_mem_nil _
  | cons first rest ih =>
    obtain ⟨first_written, rest_written⟩ := List.forall_mem_cons.mp written
    cases alike with
    | @cons _ other _ others here behind =>
      cases rest with
      | nil =>
        have alone : decisionText [first] = first.text := String.intercalate_singleton
        rw [alone] at read
        exact List.forall_mem_singleton.mpr
          (Candidate.isStable_of_parseDecision_text first_written read [] rfl here)
      | cons second rest =>
        rw [parseDecision_decisionText_cons] at read
        obtain ⟨front, taken, read⟩ := Outcome.bind_eq_ok.mp read
        obtain ⟨back, left, read⟩ := Outcome.bind_eq_ok.mp read
        have whole : front ++ back = other :: others := Except.ok.inj read
        have stable := Candidate.isStable_of_parseDecision_text first_written taken back
          (whole ▸ rfl) here
        -- The text of a stable candidate is one directive, so the others are read from the rest.
        obtain ⟨one, alone, -⟩ := Candidate.exists_parseDecision_text first_written stable
        obtain rfl := Except.ok.inj (alone.symm.trans taken)
        obtain ⟨rfl, rfl⟩ := List.cons.inj whole
        exact List.forall_mem_cons.mpr ⟨stable, ih rest_written left behind⟩

/-- **Writing a decision out undoes reading it** exactly when the text of every proxy is an address
of it. What is written out is then read as candidates that are shown alike, one for each. -/
theorem decisionText_read_back {decision : String} {candidates : List Candidate}
    (read : parseDecision decision = .ok candidates) :
    (∃ again, parseDecision (decisionText candidates) = .ok again ∧
        List.Forall₂ Candidate.ShownAs candidates again) ↔
      ∀ candidate ∈ candidates, ∀ uri ∈ candidate.uri?, uri.IsStable := by
  have written := isWritten_of_parseDecision read
  constructor
  · rintro ⟨again, reread, alike⟩
    exact isStable_of_parseDecision_decisionText written reread alike
  · exact exists_parseDecision_decisionText written

/-- A port that the scheme stands for, a lone slash and an empty password are not shown, and
nothing is lost with them. -/
theorem decisionText_read_back_short :
    ∃ candidates, parseDecision "SOCKS http://u:@EXAMPLE.com:80/?x#y; DIRECT" = .ok candidates ∧
      decisionText candidates = "SOCKS http://u@example.com?x; DIRECT" ∧
      ∃ again, parseDecision (decisionText candidates) = .ok again ∧
        List.Forall₂ Candidate.ShownAs candidates again := by
  have shown : (parseDecision "SOCKS http://u:@EXAMPLE.com:80/?x#y; DIRECT").map
      (fun candidates => (decisionText candidates,
        decide (∀ candidate ∈ candidates, ∀ uri ∈ candidate.uri?, uri.IsStable))) =
      .ok ("SOCKS http://u@example.com?x; DIRECT", true) := by
    decide +kernel
  obtain ⟨candidates, read, same⟩ := Outcome.map_eq_ok.mp shown
  obtain ⟨text, stable⟩ := Prod.mk.inj same
  exact ⟨candidates, read, text, (decisionText_read_back read).mpr (of_decide_eq_true stable)⟩

/-- **A fragment may be all that shows that an address has a scheme.** Without it the address gets
the scheme of its mode. -/
theorem decisionText_not_read_back :
    ∃ candidates, parseDecision "PROXY foo://h/#http" = .ok candidates ∧
      ¬ ∃ again, parseDecision (decisionText candidates) = .ok again ∧
        List.Forall₂ Candidate.ShownAs candidates again := by
  have shown : (parseDecision "PROXY foo://h/#http").map decisionText = .ok "PROXY foo://h" := by
    decide +kernel
  have other : (parseDecision "PROXY foo://h").map decisionText = .ok "PROXY http://foo//h" := by
    decide +kernel
  obtain ⟨candidates, read, text⟩ := Outcome.map_eq_ok.mp shown
  refine ⟨candidates, read, ?_⟩
  rintro ⟨again, reread, alike⟩
  rw [text] at reread
  rw [reread] at other
  have changed : decisionText again = "PROXY http://foo//h" := Except.ok.inj other
  rw [← decisionText_eq alike, text] at changed
  exact absurd changed (by decide)

end ProxyAutoConfig
