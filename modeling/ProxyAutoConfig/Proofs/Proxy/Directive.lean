import Mathlib.Data.List.Forall2
import ProxyAutoConfig.Proofs.Proxy.Decision
import ProxyAutoConfig.Proofs.Proxy.Embedding
import ProxyAutoConfig.Proofs.Proxy.Key
import ProxyAutoConfig.Proofs.Proxy.Mode
import ProxyAutoConfig.Proofs.Text.Cut
import ProxyAutoConfig.Proofs.Url.Host

/-!
# What a directive gives

A decision is a list of directives, and reading it is reading each of them (`parseDecision_eq`).
A directive is a token and perhaps an address. Its candidate keeps the address as text and has the
proxy there beside it; the two belong together, and stay together when a credential is put into the
proxy.

**The law**, `associated_gives`: the candidates of a decision, associated with any table, stand for
its directives one by one. A client that connects to a candidate's proxy goes where the directive's
own words lead, and the text of the address is these words, behind the scheme of the mode where
they show none.
-/

namespace ProxyAutoConfig

open ProxyAutoConfig.Text

/-! ## Directives -/

/-- One directive: the token that tells the mode, and perhaps an address. -/
structure Directive where
  token : List Char
  address? : Option (List Char)
  deriving DecidableEq

namespace Directive

/-- The directive of these fields, if they are one or two. -/
def ofFields? : List (List Char) → Option Directive
  | [token] => some ⟨token, none⟩
  | [token, address] => some ⟨token, some address⟩
  | _ => none

/-- The candidate of a directive. -/
def read (directive : Directive) : Outcome Candidate := do
  let mode ← Mode.parse (String.ofList directive.token)
  match directive.address? with
  | none => return Candidate.bare mode
  | some address => Candidate.ofAddress mode address

end Directive

/-- The directives of a decision, in its order. -/
def directives (decision : String) : List Directive :=
  (decision.toList.splitOn ';').filterMap fun piece => Directive.ofFields? (fields piece)

/-- A piece of a decision gives the candidate of its directive, if it is one. -/
theorem Candidate.ofDirective_eq (piece : List Char) :
    ofDirective piece = (Directive.ofFields? (fields piece)).toList.mapM Directive.read := by
  unfold ofDirective
  split
  · next token parts =>
    simp only [parts, Directive.ofFields?, Directive.read, Option.toList_some, List.mapM_cons,
      List.mapM_nil, bind_assoc, pure_bind]
    cases Mode.parse (String.ofList token) <;> rfl
  · next token address parts =>
    simp only [parts, Directive.ofFields?, Directive.read, Option.toList_some, List.mapM_cons,
      List.mapM_nil, bind_assoc, pure_bind]
  · next one two =>
    have skipped : Directive.ofFields? (fields piece) = none := by
      unfold Directive.ofFields?
      split
      · next token h => exact (one token h).elim
      · next token address h => exact (two token address h).elim
      · rfl
    rw [skipped]
    rfl

/-- **Reading a decision is reading its directives**, in their order. -/
theorem parseDecision_eq (decision : String) :
    parseDecision decision = (directives decision).mapM Directive.read := by
  rw [parseDecision, directives]
  induction decision.toList.splitOn ';' with
  | nil => rfl
  | cons piece pieces ih =>
    rw [Candidate.ofDirectives, ih, Candidate.ofDirective_eq]
    cases counts : Directive.ofFields? (fields piece) with
    | none =>
      simp only [List.filterMap_cons, counts, Option.toList_none, List.mapM_nil, pure_bind,
        List.nil_append, bind_pure]
    | some directive =>
      simp only [List.filterMap_cons, counts, Option.toList_some, List.mapM_cons, List.mapM_nil,
        bind_assoc, pure_bind, List.singleton_append]

/-! ## Schemes in addresses -/

/-- **An address names a scheme** when one of three words stands in it; the other two words hold
one of these. -/
theorem Candidate.namesScheme_iff {address : List Char} :
    namesScheme address = true ↔
      ∃ word ∈ ["http", "socks", "quic"], word.toList <:+: address := by
  rw [namesScheme, List.any_eq_true]
  constructor
  · rintro ⟨word, mem, held⟩
    obtain ⟨root, known, within⟩ := (by decide +kernel : ∀ word ∈ schemeWords,
      ∃ root ∈ ["http", "socks", "quic"], root.toList <:+: word.toList) word mem
    exact ⟨root, known, within.trans (holds_iff.mp held)⟩
  · rintro ⟨word, mem, held⟩
    have known := (by decide : ∀ word ∈ ["http", "socks", "quic"], word ∈ schemeWords) word mem
    exact ⟨word, known, holds_iff.mpr held⟩

/-! ## Candidates -/

/-- **Two proxies to which a client connects in one way**: they differ at most in user name,
password and fragment. -/
structure ProxyUri.ConnectsAs (a b : ProxyUri) : Prop where
  scheme_eq : a.scheme = b.scheme
  host_eq : a.host = b.host
  port?_eq : a.port? = b.port?
  path_eq : a.url.path = b.url.path
  query_eq : a.url.query = b.url.query

/-- **What a candidate keeps of an address field**: its own address is the field, in front of which
stands the scheme of the mode where the field names none, and it reads as the proxy that the
candidate has. A direct connection has no proxy. -/
structure Candidate.StandsFor (candidate : Candidate) (field : List Char) : Prop where
  nonempty : candidate.address ≠ ""
  written : candidate.address = String.ofList field ∨
    ∃ scheme, candidate.mode.defaultScheme? = some scheme ∧
      candidate.address = scheme ++ "://" ++ String.ofList field
  prefixed_iff : (∃ scheme, candidate.mode.defaultScheme? = some scheme ∧
      candidate.address = scheme ++ "://" ++ String.ofList field) ↔
    candidate.mode ≠ .direct ∧ ∀ word ∈ ["http", "socks", "quic"], ¬ word.toList <:+: field
  leads : ∃ uri, ProxyUri.parse candidate.address = .ok uri ∧ uri.host ≠ "" ∧
    (candidate.mode ≠ .direct → ∃ target, candidate.uri? = some target ∧ target.ConnectsAs uri)
  direct : candidate.mode = .direct → candidate.uri? = none

/-- **What a directive gives**: a candidate of the mode that its token tells, which has neither
address nor proxy where the directive has no address. -/
inductive Directive.Gives : Directive → Candidate → Prop
  | alone {token : List Char} {candidate : Candidate} :
      Mode.classify? (String.ofList token) = some candidate.mode → candidate.address = "" →
      candidate.uri? = none → Gives ⟨token, none⟩ candidate
  | addressed {token field : List Char} {candidate : Candidate} :
      Mode.classify? (String.ofList token) = some candidate.mode → candidate.StandsFor field →
      Gives ⟨token, some field⟩ candidate

/-- A proxy has a host. -/
theorem ProxyUri.host_ne_empty (uri : ProxyUri) : uri.host ≠ "" := by
  have text := uri.hostText?_eq
  intro empty
  rw [empty] at text
  unfold Url.hostText? at text
  split at text
  · cases text
  · cases text
  · next host notEmpty _ =>
    exact Host.toList_text_ne_nil notEmpty
      (congrArg String.toList (Option.some.inj text))

namespace Candidate

variable {mode : Mode} {field : List Char} {candidate : Candidate}

/-- An address with a scheme in front is not the address. -/
theorem append_ne_field (scheme : String) :
    scheme ++ "://" ++ String.ofList field ≠ String.ofList field := by
  intro same
  have chars := congrArg String.toList same
  rw [String.toList_append, List.append_left_eq_self, String.toList_append] at chars
  exact absurd (List.append_eq_nil_iff.mp chars).2 (by decide)

/-- Where an address has a scheme or needs none, none is put in front of it. -/
theorem withScheme_of_plain (plain : mode = .direct ∨ namesScheme field = true) :
    withScheme mode field = String.ofList field := by
  rcases plain with rfl | named
  · rfl
  · unfold withScheme
    rw [named]
    cases mode.defaultScheme? <;> rfl

/-- Where it has none, that of its mode is. -/
theorem withScheme_of_wordless {scheme : String} (brings : mode.defaultScheme? = some scheme)
    (wordless : namesScheme field = false) :
    withScheme mode field = scheme ++ "://" ++ String.ofList field := by
  rw [withScheme, brings]
  exact if_neg (by rw [wordless]; exact Bool.false_ne_true)

/-- The address is the field, or the field behind the scheme of the mode; the scheme is put there
where the mode has one and the field names none. -/
theorem withScheme_cases (mode : Mode) (field : List Char) :
    (withScheme mode field = String.ofList field ∧ (mode = .direct ∨ namesScheme field = true)) ∨
      ∃ scheme, mode.defaultScheme? = some scheme ∧ namesScheme field = false ∧
        withScheme mode field = scheme ++ "://" ++ String.ofList field := by
  by_cases plain : mode = .direct ∨ namesScheme field = true
  · exact .inl ⟨withScheme_of_plain plain, plain⟩
  · obtain ⟨proxied, wordless⟩ := not_or.mp plain
    rw [Bool.not_eq_true] at wordless
    obtain ⟨scheme, brings⟩ := Mode.exists_defaultScheme? proxied
    exact .inr ⟨scheme, brings, wordless, withScheme_of_wordless brings wordless⟩

/-- An address behind the scheme of its mode, read. -/
theorem ofAddress_eq (mode : Mode) (field : List Char) :
    ofAddress mode field =
      (ProxyUri.parse (withScheme mode field)).map (⟨mode, withScheme mode field, some ·⟩) := by
  rw [ofAddress]
  cases ProxyUri.parse (withScheme mode field) <;> rfl

/-- A mode with an address gives the proxy that the address reads as. -/
theorem ofAddress_eq_ok :
    ofAddress mode field = .ok candidate ↔
      ∃ uri, ProxyUri.parse (withScheme mode field) = .ok uri ∧
        candidate = ⟨mode, withScheme mode field, some uri⟩ := by
  unfold ofAddress
  cases ProxyUri.parse (withScheme mode field) with
  | error failure => simp only [reduceCtorEq, false_and, exists_false]
  | ok uri =>
    simp only [Except.ok.injEq, exists_eq_left']
    exact eq_comm

/-- **What is read from an address field stands for it.** -/
theorem standsFor_of_ofAddress (nonempty : field ≠ []) (read : ofAddress mode field = .ok candidate) :
    candidate.mode = mode ∧ candidate.StandsFor field := by
  obtain ⟨uri, parsed, rfl⟩ := ofAddress_eq_ok.mp read
  refine ⟨rfl, ?_, ?_, ?_, ⟨uri, parsed, uri.host_ne_empty, fun proxied =>
    ⟨uri, if_neg proxied, rfl, rfl, rfl, rfl, rfl⟩⟩, fun direct => if_pos direct⟩
  · intro empty
    have chars := congrArg String.toList empty
    rcases withScheme_cases mode field with ⟨same, _⟩ | ⟨scheme, _, _, same⟩
    · rw [same, String.toList_ofList] at chars
      exact nonempty chars
    · rw [same, String.toList_append, String.toList_ofList] at chars
      exact nonempty (List.append_eq_nil_iff.mp chars).2
  · rcases withScheme_cases mode field with ⟨same, _⟩ | ⟨scheme, brings, _, same⟩
    · exact .inl same
    · exact .inr ⟨scheme, brings, same⟩
  · rcases withScheme_cases mode field with ⟨same, plain⟩ | ⟨scheme, brings, wordless, same⟩
    · refine ⟨fun ⟨scheme, _, other⟩ => absurd (other.symm.trans same) (append_ne_field scheme),
        fun ⟨proxied, wordless⟩ => ?_⟩
      rcases plain with direct | named
      · exact absurd direct proxied
      · obtain ⟨word, mem, held⟩ := namesScheme_iff.mp named
        exact absurd held (wordless word mem)
    · refine iff_of_true ⟨scheme, brings, same⟩ ⟨?_, fun word mem held => ?_⟩
      · rintro rfl
        cases brings
      · rw [namesScheme_iff.mpr ⟨word, mem, held⟩] at wordless
        cases wordless

end Candidate

namespace Directive

variable {directive : Directive} {candidate : Candidate}

/-- A field is not empty. -/
theorem ne_nil_of_mem_directives {decision : String} (mem : directive ∈ directives decision) :
    directive.address? ≠ some [] := by
  intro empty
  obtain ⟨piece, _, counts⟩ := List.mem_filterMap.mp mem
  have blank : ([] : List Char) ∈ fields piece := by
    unfold ofFields? at counts
    split at counts
    · cases counts
      cases empty
    · next token address parts =>
      cases counts
      cases empty
      rw [parts]
      exact List.mem_cons_of_mem _ List.mem_cons_self
    · cases counts
  cases isEmpty_of_mem_fields blank

/-- A directive's candidate is what the directive gives. -/
theorem gives_of_read (nonempty : directive.address? ≠ some [])
    (done : directive.read = .ok candidate) : directive.Gives candidate := by
  obtain ⟨token, address?⟩ := directive
  obtain ⟨mode, sorted, rest⟩ := Outcome.bind_eq_ok.mp done
  cases address? with
  | none =>
    obtain rfl := Except.ok.inj rest
    exact .alone (Mode.parse_eq_ok.mp sorted) rfl (ite_self none)
  | some field =>
    obtain ⟨rfl, stands⟩ :=
      Candidate.standsFor_of_ofAddress (fun h => nonempty (congrArg some h)) rest
    exact .addressed (Mode.parse_eq_ok.mp sorted) stands

end Directive

/-! ## Association -/

/-- A proxy that carries a credential is connected to as before. -/
theorem ProxyUri.connectsAs_carrying (uri : ProxyUri) (credential : Credential) :
    (uri.carrying credential).ConnectsAs uri :=
  ⟨rfl, rfl, rfl, rfl, rfl⟩

/-- Connecting in one way is transitive. -/
theorem ProxyUri.ConnectsAs.trans {a b c : ProxyUri} (ab : a.ConnectsAs b) (bc : b.ConnectsAs c) :
    a.ConnectsAs c :=
  ⟨ab.scheme_eq.trans bc.scheme_eq, ab.host_eq.trans bc.host_eq, ab.port?_eq.trans bc.port?_eq,
    ab.path_eq.trans bc.path_eq, ab.query_eq.trans bc.query_eq⟩

/-- **Association leaves a candidate as it is, or makes its proxy carry a credential.** -/
theorem CredentialTable.kept_or_carrying {table : CredentialTable} {before after : Candidate}
    (attached : table.attach before = .ok after) :
    after = before ∨ ∃ uri credential, before.uri? = some uri ∧
      after = { before with target := some (uri.carrying credential) } := by
  rcases attach_eq_ok.mp attached with ⟨_, kept⟩ | ⟨uri, credential, target, _, _, rfl⟩
  · exact .inl kept
  · exact .inr ⟨uri, credential, target, rfl⟩

/-- A candidate stands for the same field after its association. -/
theorem Candidate.StandsFor.attach {table : CredentialTable} {before after : Candidate}
    {field : List Char} (stands : before.StandsFor field)
    (attached : table.attach before = .ok after) : after.StandsFor field := by
  rcases CredentialTable.kept_or_carrying attached with rfl | ⟨uri, credential, target, rfl⟩
  · exact stands
  · obtain ⟨own, read, hosted, leads⟩ := stands.leads
    have proxied : before.mode ≠ .direct := fun direct => by
      rw [stands.direct direct] at target
      cases target
    refine ⟨stands.nonempty, stands.written, stands.prefixed_iff, ⟨own, read, hosted, fun _ => ?_⟩,
      fun direct => absurd direct proxied⟩
    obtain ⟨first, same, connects⟩ := leads proxied
    obtain rfl := Option.some.inj (target.symm.trans same)
    exact ⟨_, Candidate.uri?_of_target target,
      (uri.connectsAs_carrying credential).trans connects⟩

/-- And it is what the same directive gives. -/
theorem Directive.Gives.attach {table : CredentialTable} {directive : Directive}
    {before after : Candidate} (gives : directive.Gives before)
    (attached : table.attach before = .ok after) : directive.Gives after := by
  have mode_eq : after.mode = before.mode := by
    rcases CredentialTable.kept_or_carrying attached with rfl | ⟨_, _, _, rfl⟩ <;> rfl
  cases gives with
  | alone sorted empty none =>
    rcases CredentialTable.kept_or_carrying attached with rfl | ⟨uri, _, target, _⟩
    · exact .alone sorted empty none
    · rw [none] at target
      cases target
  | addressed sorted stands => exact .addressed (mode_eq ▸ sorted) (stands.attach attached)

/-- **Every candidate stands for its directive.** The candidates of a decision, associated with any
table, are those of its directives, one each and in their order. Each one is bare, or its address
is the directive's own, behind the scheme of its mode exactly where it is to go to a proxy and the
address names no scheme; the address reads as a proxy with a host, and the candidate's proxy has
the same scheme, host, port, path and query. A direct connection has no proxy, whatever its address
says. -/
theorem associated_gives {decision : String} {table : CredentialTable}
    {candidates associated : List Candidate} (read : parseDecision decision = .ok candidates)
    (done : table.associate candidates = .ok associated) :
    List.Forall₂ Directive.Gives (directives decision) associated := by
  rw [parseDecision_eq] at read
  refine Outcome.forall₂_of_mapM_mapM read done fun directive mem before after here attached => ?_
  exact (Directive.gives_of_read (Directive.ne_nil_of_mem_directives mem) here).attach attached

/-- A word of a scheme shows one wherever it stands, a direct connection may have an address, and a
piece of three fields is no directive. -/
theorem associated_gives_three :
    ∃ associated, (parseDecision "SOCKS a:1; DIRECT socks://b; a b c; PROXY c://quic:2" >>=
        CredentialTable.associate ⟨[("a:1", ⟨"u", "p", by decide⟩)], by decide⟩) = .ok associated ∧
      List.Forall₂ Directive.Gives
        [⟨"SOCKS".toList, some "a:1".toList⟩, ⟨"DIRECT".toList, some "socks://b".toList⟩,
          ⟨"PROXY".toList, some "c://quic:2".toList⟩] associated := by
  have succeeds : (parseDecision "SOCKS a:1; DIRECT socks://b; a b c; PROXY c://quic:2" >>=
      CredentialTable.associate ⟨[("a:1", ⟨"u", "p", by decide⟩)], by decide⟩).isOk = true := by
    decide +kernel
  obtain ⟨associated, both⟩ := Outcome.exists_eq_ok succeeds
  obtain ⟨candidates, read, done⟩ := Outcome.bind_eq_ok.mp both
  have counted : directives "SOCKS a:1; DIRECT socks://b; a b c; PROXY c://quic:2" =
      [⟨"SOCKS".toList, some "a:1".toList⟩, ⟨"DIRECT".toList, some "socks://b".toList⟩,
        ⟨"PROXY".toList, some "c://quic:2".toList⟩] := by
    decide +kernel
  have gives := associated_gives read done
  rw [counted] at gives
  exact ⟨associated, both, gives⟩

end ProxyAutoConfig
