import ProxyAutoConfig.Proofs.Outcome
import ProxyAutoConfig.Proofs.Source.Download

/-!
# Where content comes from

Loading a script is getting it and looking at it (`load_eq`). What has been got is the specifier
itself, the text of a file, or the body of an answer with status 200 (`Gives`); where nothing can be
got, the specifier or the file is no good, or the download has failed (`obtain_yields`).
-/

namespace ProxyAutoConfig

open ProxyAutoConfig.Text

/-! ## What a step yields -/

/-- **A step yields** a result that satisfies `post`, or a failure of one of these kinds. -/
def Recorded.Yields {α : Type} (kinds : List Failure.Kind) (post : α → Prop) (x : Recorded α) :
    Prop :=
  ∀ j, (∃ a after, x j = .ok a after ∧ post a) ∨
    ∃ failure after, x j = .error failure after ∧ failure.kind ∈ kinds

namespace Recorded.Yields

variable {α β : Type} {kinds : List Failure.Kind} {post : α → Prop} {post' : β → Prop}

theorem pure {a : α} (satisfied : post a) : Yields kinds post (Pure.pure a : Recorded α) :=
  fun j => .inl ⟨a, j, rfl, satisfied⟩

theorem throw {failure : Failure} (kind : failure.kind ∈ kinds) :
    Yields kinds post (throw failure : Recorded α) :=
  fun j => .inr ⟨failure, j, rfl, kind⟩

theorem modify (f : Journal → Journal) :
    Yields kinds (fun _ => True) (modify f : Recorded PUnit) :=
  fun j => .inl ⟨PUnit.unit, f j, rfl, trivial⟩

theorem report (level : Log.Level) (message : String) (fields : List (String × String)) :
    Yields kinds (fun _ => True) (Recorded.report level message fields) :=
  modify _

/-- One step after another. -/
theorem bind {x : Recorded α} {f : α → Recorded β} (first : Yields kinds post x)
    (next : ∀ a, post a → Yields kinds post' (f a)) : Yields kinds post' (x >>= f) := by
  intro j
  rcases first j with ⟨a, after, ran, satisfied⟩ | ⟨failure, after, ran, kind⟩
  · rw [Outcome.bind_of_ok ran]
    exact next a satisfied after
  · rw [Outcome.bind_of_error ran]
    exact .inr ⟨failure, after, rfl, kind⟩

/-- A step without events. -/
theorem ofOutcome {x : Outcome α} (fails : Outcome.FailsAs kinds x) :
    Yields kinds (fun a => x = .ok a) (Recorded.ofOutcome x) := by
  cases x with
  | ok a => exact .pure rfl
  | error failure => exact .throw (fails failure rfl)

/-- A result from an empty journal satisfies it. -/
theorem of_record_ok {x : Recorded α} {a : α} {j : Journal} (yields : Yields kinds post x)
    (ran : x.record = (.ok a, j)) : post a := by
  unfold Recorded.record at ran
  rcases yields .empty with ⟨result, after, same, satisfied⟩ | ⟨failure, after, same, -⟩
  · rw [same] at ran
    cases ran
    exact satisfied
  · rw [same] at ran
    cases ran

/-- A failure from an empty journal is of such a kind. -/
theorem of_record_error {x : Recorded α} {failure : Failure} {j : Journal}
    (yields : Yields kinds post x) (ran : x.record = (.error failure, j)) :
    failure.kind ∈ kinds := by
  unfold Recorded.record at ran
  rcases yields .empty with ⟨result, after, same, -⟩ | ⟨refused, after, same, kind⟩
  · rw [same] at ran
    cases ran
  · rw [same] at ran
    cases ran
    exact kind

end Recorded.Yields

namespace Source

open Recorded (Yields)

/-! ## Getting a script -/

variable (supply : Supply) (override : Option Credential) (specifier : String)

/-- Get the script of a specifier, whatever it holds. -/
def obtain : Recorded Loaded :=
  match Origin.ofSpecifier specifier with
  | .remote => do
    let content ← download supply override specifier
    return ⟨Redaction.uriText specifier, content⟩
  | .text => return ⟨"text", specifier⟩
  | .file => readFile supply specifier

/-- **Loading is getting a script and looking at it.** -/
theorem load_eq :
    load supply override specifier = (do
      let loaded ← obtain supply override specifier
      Recorded.ofOutcome (checkContent loaded.content)
      return loaded) := by
  unfold load obtain
  cases Origin.ofSpecifier specifier <;> simp only [bind_assoc, pure_bind]

/-- **What a specifier gives**: the text that it is, the text of the file that it names, or what the
web answers to it with status 200. -/
inductive Gives : String → Prop
  | text : Origin.ofSpecifier specifier = .text → Gives specifier
  | file {path : String} {bytes : List UInt8} {content : List Char} :
      Origin.ofSpecifier specifier = .file → filePath specifier = .ok path →
      supply.file path = some bytes → Utf8.decode bytes = .ok content →
      Gives (String.ofList content)
  | remote {url : Url} {reply : Reply} :
      Origin.ofSpecifier specifier = .remote → Url.parse specifier = .ok url →
      supply.reply (requestFor override url) = some reply → reply.status = 200 →
      Gives (String.ofList (Utf8.decodeLossy reply.body))

/-- A specifier names no file only where it is no good. -/
theorem filePath_fails : Outcome.FailsAs [.invalid] (filePath specifier) := by
  unfold filePath
  dsimp only
  split
  · exact .ok _
  · split
    · exact .error List.mem_cons_self
    · split
      · exact .error List.mem_cons_self
      · exact .ok _

/-- A download yields the body of an answer with status 200. -/
theorem download_yields :
    Yields [.invalid, .fetchFailed]
      (fun content => ∃ url reply, Url.parse specifier = .ok url ∧
        supply.reply (requestFor override url) = some reply ∧ reply.status = 200 ∧
        content = String.ofList (Utf8.decodeLossy reply.body))
      (download supply override specifier) := by
  intro j
  rw [download_eq]
  cases read : Url.parse specifier with
  | error flaw => exact .inr ⟨_, _, rfl, List.mem_cons_self⟩
  | ok url =>
    simp only
    cases answered : supply.reply (requestFor override url) with
    | none => exact .inr ⟨_, _, rfl, List.mem_cons_of_mem _ List.mem_cons_self⟩
    | some reply =>
      simp only [received]
      split
      · next success => exact .inl ⟨_, _, rfl, url, reply, rfl, answered, success, rfl⟩
      · exact .inr ⟨_, _, rfl, List.mem_cons_of_mem _ List.mem_cons_self⟩

/-- **What has been got is what the specifier gives**; otherwise something was no good, or could not
be fetched. -/
theorem obtain_yields :
    Yields [.invalid, .fetchFailed] (fun loaded => Gives supply override specifier loaded.content)
      (obtain supply override specifier) := by
  unfold obtain
  cases origin : Origin.ofSpecifier specifier with
  | text => exact .pure (.text origin)
  | remote =>
    refine (download_yields supply override specifier).bind ?_
    rintro _ ⟨url, reply, read, answered, success, rfl⟩
    exact .pure (.remote origin read answered success)
  | file =>
    have named : Outcome.FailsAs [.invalid, .fetchFailed] (filePath specifier) :=
      (filePath_fails specifier).mono (List.cons_subset_cons _ (List.nil_subset _))
    refine (Yields.ofOutcome named).bind fun path named => ?_
    cases held : supply.file path with
    | none => exact .throw List.mem_cons_self
    | some bytes =>
      cases decoded : Utf8.decode bytes with
      | error flaw =>
        simp only [Option.map_some, decoded]
        exact .throw List.mem_cons_self
      | ok content =>
        simp only [Option.map_some, decoded]
        exact (Yields.report _ _ _).bind fun _ _ => .pure (.file origin named held decoded)

end Source

end ProxyAutoConfig
