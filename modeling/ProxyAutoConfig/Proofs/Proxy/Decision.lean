import ProxyAutoConfig.Proofs.Outcome
import ProxyAutoConfig.Proofs.Text.Cut
import ProxyAutoConfig.Proxy.Candidate

/-!
# Reading decisions piece by piece

A decision is read directive by directive, and the semicolons between directives are the only
thing that binds them. Two decisions joined by a semicolon are read one after the other: the
first one's failure comes first, and the candidates of both stand in the order of the text.

What a single directive gives depends on the number of its fields: none or more than two give
nothing, and one or two give one candidate or a failure. So the leftmost directive of one or two
fields that makes no sense decides about the failure of a whole decision.
-/

namespace ProxyAutoConfig

open ProxyAutoConfig.Text

namespace Candidate

/-- Directives are read in sequence. -/
theorem ofDirectives_append (front back : List (List Char)) :
    ofDirectives (front ++ back) = (do
      let here ← ofDirectives front
      let there ← ofDirectives back
      return here ++ there) := by
  induction front with
  | nil =>
    cases hb : ofDirectives back with
    | ok there => simp only [List.nil_append, ofDirectives, Outcome.ok_bind, hb]; rfl
    | error failure => simp only [List.nil_append, ofDirectives, Outcome.ok_bind, hb]; rfl
  | cons directive front ih =>
    rw [List.cons_append, ofDirectives, ofDirectives, ih]
    cases ofDirective directive with
    | error failure => rfl
    | ok here =>
      cases ofDirectives front with
      | error failure => rfl
      | ok middle =>
        cases ofDirectives back with
        | error failure => rfl
        | ok there => exact congrArg Except.ok (List.append_assoc here middle there).symm

/-- One directive is read as it is read alone. -/
theorem ofDirectives_singleton (directive : List Char) :
    ofDirectives [directive] = ofDirective directive := by
  cases hd : ofDirective directive with
  | error failure => simp only [ofDirectives, hd]; rfl
  | ok here =>
    simp only [ofDirectives, hd, Outcome.ok_bind]
    exact congrArg Except.ok (List.append_nil here)

/-- A directive without a field, or with more than two, gives nothing. -/
theorem ofDirective_of_skipped {directive : List Char}
    (skipped : (fields directive).length = 0 ∨ 2 < (fields directive).length) :
    ofDirective directive = .ok [] := by
  unfold ofDirective
  split
  · next token h =>
    rw [h] at skipped
    simp only [List.length_cons, List.length_nil] at skipped
    omega
  · next token address h =>
    rw [h] at skipped
    simp only [List.length_cons, List.length_nil] at skipped
    omega
  · rfl

/-- A directive of one or two fields gives one candidate, or fails. -/
theorem ofDirective_of_taken {directive : List Char}
    (taken : (fields directive).length = 1 ∨ (fields directive).length = 2) :
    (∃ candidate, ofDirective directive = .ok [candidate]) ∨
      ∃ failure, ofDirective directive = .error failure := by
  unfold ofDirective
  split
  · next token h =>
    cases Mode.parse (String.ofList token) with
    | ok mode => exact .inl ⟨bare mode, rfl⟩
    | error failure => exact .inr ⟨failure, rfl⟩
  · next token address h =>
    cases Mode.parse (String.ofList token) with
    | error failure => exact .inr ⟨failure, rfl⟩
    | ok mode =>
      cases hc : ofAddress mode address with
      | error failure => exact .inr ⟨failure, by simp only [Outcome.ok_bind, hc]; rfl⟩
      | ok candidate => exact .inl ⟨candidate, by simp only [Outcome.ok_bind, hc]; rfl⟩
  · next one two =>
    rcases taken with h | h
    · obtain ⟨token, h⟩ := List.length_eq_one_iff.mp h
      exact (one token h).elim
    · obtain ⟨token, address, h⟩ := List.length_eq_two.mp h
      exact (two token address h).elim

/-- A blank in front of a directive does not matter. -/
theorem ofDirective_cons_blank {c : Char} (blank : isBlank c = true) (directive : List Char) :
    ofDirective (c :: directive) = ofDirective directive := by
  rw [ofDirective, ofDirective, fields_cons_blank blank]

end Candidate

/-- A blank in front of a decision does not matter. -/
theorem parseDecision_space (decision : String) :
    parseDecision (" " ++ decision) = parseDecision decision := by
  have front : (" " ++ decision).toList = ' ' :: decision.toList := String.toList_append
  obtain ⟨first, rest, pieces⟩ :=
    List.exists_cons_of_ne_nil (List.splitOnP_ne_nil (· == ';') decision.toList)
  have cut : decision.toList.splitOn ';' = first :: rest := pieces
  have cut' : (' ' :: decision.toList).splitOn ';' = (' ' :: first) :: rest := by
    rw [List.splitOn, List.splitOnP_cons_eq_if_modifyHead, if_neg (by decide), pieces,
      List.modifyHead_cons]
  rw [parseDecision, parseDecision, front, cut, cut', Candidate.ofDirectives,
    Candidate.ofDirectives, Candidate.ofDirective_cons_blank (by decide)]

/-- **Two decisions joined by a semicolon are read one after the other.** -/
theorem parseDecision_semicolon (front back : String) :
    parseDecision (front ++ ";" ++ back) = (do
      let here ← parseDecision front
      let there ← parseDecision back
      return here ++ there) := by
  have cut : (front ++ ";" ++ back).toList = front.toList ++ ';' :: back.toList := by
    simp only [String.toList_append, List.append_assoc]
    rfl
  simp only [parseDecision, cut, List.splitOn_append_cons_self, Candidate.ofDirectives_append]

/-- A text without a semicolon is one directive. -/
theorem parseDecision_of_not_mem {directive : String} (plain : ';' ∉ directive.toList) :
    parseDecision directive = Candidate.ofDirective directive.toList := by
  rw [parseDecision, List.splitOn_eq_singleton plain, Candidate.ofDirectives_singleton]

/-- What stands in front of the first semicolon is read as a directive. -/
theorem exists_of_parseDecision_front {decision : String} {front back : List Char}
    {candidates : List Candidate} (whole : decision.toList = front ++ back) (plain : ';' ∉ front)
    (ends : ∀ c ∈ back.head?, c = ';') (read : parseDecision decision = .ok candidates) :
    ∃ here there, Candidate.ofDirective front = .ok here ∧ candidates = here ++ there := by
  cases back with
  | nil =>
    rw [List.append_nil] at whole
    rw [parseDecision_of_not_mem (whole ▸ plain), whole] at read
    exact ⟨candidates, [], read, (List.append_nil _).symm⟩
  | cons c rest =>
    obtain rfl := ends c rfl
    rw [parseDecision, whole, List.splitOn_append_cons_self, List.splitOn_eq_singleton plain,
      Candidate.ofDirectives_append, Candidate.ofDirectives_singleton] at read
    obtain ⟨here, first, read⟩ := Outcome.bind_eq_ok.mp read
    obtain ⟨there, -, read⟩ := Outcome.bind_eq_ok.mp read
    exact ⟨here, there, first, (Except.ok.inj read).symm⟩

/-- **A decision of many pieces is read piece by piece**, and what the pieces give is put together
in their order. -/
theorem parseDecision_intercalate (pieces : List String) :
    parseDecision (";".intercalate pieces) =
      (pieces.mapM parseDecision).map List.flatten := by
  induction pieces with
  | nil => rfl
  | cons piece rest ih =>
    cases rest with
    | nil =>
      rw [String.intercalate_singleton, List.mapM_cons]
      cases parseDecision piece with
      | error failure => rfl
      | ok here => exact congrArg Except.ok (List.append_nil here).symm
    | cons next rest =>
      rw [String.intercalate_cons_cons, parseDecision_semicolon, ih]
      have step : (piece :: next :: rest).mapM parseDecision = (do
          let here ← parseDecision piece
          let there ← (next :: rest).mapM parseDecision
          return here :: there) := List.mapM_cons
      rw [step]
      cases parseDecision piece with
      | error failure => rfl
      | ok here =>
        cases (next :: rest).mapM parseDecision with
        | error failure => rfl
        | ok there => rfl

/-- A decision of many pieces succeeds when every piece does. -/
theorem parseDecision_intercalate_eq_ok {pieces : List String} {candidates : List Candidate} :
    parseDecision (";".intercalate pieces) = .ok candidates ↔
      ∃ lists, List.Forall₂ (fun piece list => parseDecision piece = .ok list) pieces lists ∧
        lists.flatten = candidates := by
  rw [parseDecision_intercalate]
  constructor
  · intro read
    cases hm : pieces.mapM parseDecision with
    | error failure => rw [hm] at read; cases read
    | ok lists =>
      rw [hm] at read
      exact ⟨lists, Outcome.mapM_eq_ok.mp hm, Except.ok.inj read⟩
  · rintro ⟨lists, each, rfl⟩
    rw [Outcome.mapM_eq_ok.mpr each]
    rfl

/-- A decision of many pieces fails as the leftmost piece that fails. -/
theorem parseDecision_intercalate_eq_error {pieces : List String} {failure : Failure} :
    parseDecision (";".intercalate pieces) = .error failure ↔
      ∃ before piece after, pieces = before ++ piece :: after ∧
        (∀ earlier ∈ before, ∃ list, parseDecision earlier = .ok list) ∧
        parseDecision piece = .error failure := by
  rw [parseDecision_intercalate, ← Outcome.mapM_eq_error]
  cases pieces.mapM parseDecision with
  | ok lists => exact ⟨nofun, nofun⟩
  | error other =>
    exact ⟨fun h => congrArg Except.error (Except.error.inj h),
      fun h => congrArg Except.error (Except.error.inj h)⟩

/-- **Reading decisions is a homomorphism over the semicolon.** Joined decisions are read in turn,
and the first failure wins. A directive without a field or with more than two gives no candidate;
one of one or two fields gives one candidate or fails. So the candidates of all pieces stand in
the order of the text, none lost and none twice, and the leftmost piece that fails decides about
the failure. -/
theorem parseDecision_piecewise :
    (∀ front back : String, parseDecision (front ++ ";" ++ back) =
      match parseDecision front with
      | .error failure => .error failure
      | .ok here =>
        match parseDecision back with
        | .error failure => .error failure
        | .ok there => .ok (here ++ there)) ∧
    (∀ directive : String, ';' ∉ directive.toList →
      ((fields directive.toList).length = 0 ∨ 2 < (fields directive.toList).length →
        parseDecision directive = .ok []) ∧
      ((fields directive.toList).length = 1 ∨ (fields directive.toList).length = 2 →
        (∃ candidate, parseDecision directive = .ok [candidate]) ∨
          ∃ failure, parseDecision directive = .error failure)) ∧
    (∀ pieces : List String,
      (∀ candidates, parseDecision (";".intercalate pieces) = .ok candidates ↔
        ∃ lists, List.Forall₂ (fun piece list => parseDecision piece = .ok list) pieces lists ∧
          lists.flatten = candidates) ∧
      (∀ failure, parseDecision (";".intercalate pieces) = .error failure ↔
        ∃ before piece after, pieces = before ++ piece :: after ∧
          (∀ earlier ∈ before, ∃ list, parseDecision earlier = .ok list) ∧
          parseDecision piece = .error failure)) := by
  refine ⟨fun front back => ?_, fun directive plain => ?_, fun pieces => ?_⟩
  · rw [parseDecision_semicolon]
    cases parseDecision front with
    | error failure => rfl
    | ok here => cases parseDecision back <;> rfl
  · rw [parseDecision_of_not_mem plain]
    exact ⟨Candidate.ofDirective_of_skipped, Candidate.ofDirective_of_taken⟩
  · exact ⟨fun _ => parseDecision_intercalate_eq_ok, fun _ => parseDecision_intercalate_eq_error⟩

/-- Any blank parts the two fields of a directive. -/
theorem parseDecision_piecewise_wide :
    ';' ∉ "PROXY\u3000a:1".toList ∧ (fields "PROXY\u3000a:1".toList).length = 2 ∧
      ((∃ candidate, parseDecision "PROXY\u3000a:1" = .ok [candidate]) ∨
        ∃ failure, parseDecision "PROXY\u3000a:1" = .error failure) :=
  ⟨by decide, by decide,
    (parseDecision_piecewise.2.1 "PROXY\u3000a:1" (by decide)).2 (.inr (by decide))⟩

end ProxyAutoConfig
