import ProxyAutoConfig.Session

/-!
# Runs of a session

A complete run opens a session and asks it one question after another, each at a moment of its own.
Its transcript has all that is seen of it from outside: what came of opening the session, every
answer, what the session looks like as text after each of them, and the journals.
-/

namespace ProxyAutoConfig.Session

/-- What a session is asked for: its script's decision for a URL, or the candidates. -/
inductive Question where
  | decision (url : String)
  | candidates (url : String)

/-- What a session answers. -/
inductive Answer where
  | decision (text : String)
  | candidates (list : List Candidate)

/-- Ask a session. -/
def ask (w : World) : Question → Lookup Answer
  | .decision url => do return .decision (← decision w url)
  | .candidates url => do return .candidates (← candidates w url)

/-- What a question leaves behind: the answer, the journal, and the session as text. -/
structure Turn where
  answer : Outcome Answer
  journal : Journal
  detail : String

/-- Ask a session one question after another, each in its world. -/
def turns (s : Session) : List (World × Question) → List Turn
  | [] => []
  | (w, question) :: rest =>
    let (answer, after, journal) := s.use (ask w question)
    ⟨answer, journal, after.detail⟩ :: after.turns rest

/-- What is seen of a run. -/
structure Transcript where
  opened : Outcome Session
  opening : Journal
  turns : List Turn

/-- Open a session and use it. -/
def transcript (supply : Source.Supply) (w : World) (options : Options) (specifier : String)
    (steps : List (World × Question)) : Transcript :=
  match (Session.open supply w options specifier).record with
  | (.ok s, journal) => ⟨.ok s, journal, s.turns steps⟩
  | (.error failure, journal) => ⟨.error failure, journal, []⟩

/-- The journals of a run, in order. -/
def Transcript.journals (t : Transcript) : List Journal :=
  t.opening :: t.turns.map Turn.journal

/-- The events that a listener at `limit` hears, those of the caller before those of the engine at
every turn. -/
def Transcript.heard (t : Transcript) (limit : Log.Level) : List Log.Event :=
  (t.journals.flatMap fun j => j.caller ++ j.engine).filter (·.heardAt limit)

end ProxyAutoConfig.Session
