import ProxyAutoConfig.Native.Library
import ProxyAutoConfig.Native.Table
import ProxyAutoConfig.Source.Load

/-!
# The script engine

A loaded script with the world it has made for itself. The engine gives scripts the host
functions, runs the library, then the script; from then on it answers lookups, one after the
other, and what a lookup changes is there for the next one, whether it succeeded or not.

Every run is bounded: a call has a number of rounds for its loops, and calls go down a number of
levels.
-/

namespace ProxyAutoConfig

open ProxyAutoConfig.Script ProxyAutoConfig.Text

/-- How far scripts may go. -/
structure Limits where
  /-- The rounds of loops in one call. -/
  rounds : Nat
  /-- The levels of calls. -/
  levels : Nat
  deriving DecidableEq, Repr

/-- The limits that are used where none are given. -/
def Limits.standard : Limits :=
  ⟨1000000, 256⟩

/-- A loaded script. -/
structure Engine where
  machine : Machine
  natives : NativeTable
  limits : Limits

namespace Engine

/-- Run a script as a part of the engine's start. -/
def load (outside : Embedding) (limits : Limits) (stage : String) (program : Option Program)
    (m : Machine) : Outcome Machine :=
  let run : Eval Unit :=
    match program with
    | some s => Eval.runScript outside limits.levels s
    | none => Eval.fail .syntaxError "a script cannot be read"
  match Eval.finish run m with
  | (.ok _, m) => .ok m
  | (.error (.shown text), _) => .error (.scriptLoad stage text)
  | (.error (.broken _), _) =>
    .error (.scriptLoad "PAC engine" "engine thread exited during startup")

/-- Start an engine with host functions and a script. -/
def start (natives : NativeTable) (limits : Limits) (w : World) (content : String) :
    Outcome Engine := do
  if let some (name, reason) := natives.flaw? [] then
    .error (.nativeRegistration name reason)
  let outside := natives.embedding w limits.rounds
  let m ← natives.register Realm.initial 0
  let m ← load outside limits "PAC library" (some Library.program) m
  let m ← load outside limits "PAC script" (Program.parse? content.toList) m
  return ⟨m, natives, limits⟩

/-- Run a computation in the world of the engine. -/
def run {α : Type} (e : Engine) (w : World) (x : Caller → Eval α) : Except Fault α × Engine :=
  let call := Eval.hostCaller (e.natives.embedding w e.limits.rounds) e.limits.levels
  match Eval.finish (x call) e.machine with
  | (outcome, m) => (outcome, { e with machine := m })

/-- What came of a call of the decision function. -/
inductive Verdict where
  | undefined
  | noValue
  | decision (u : Units)

/-- Call the decision function; it is looked for among the properties of the global object. -/
def callDecision (url host : String) (call : Caller) : Eval Verdict := do
  let f ← Eval.get Well.global (Key.ofString decisionFunction)
  match ← Eval.code? f with
  | none => return .undefined
  | some _ =>
    let v ← call (.apply f .undefined [.ofString url, .ofString host])
    if v.isMissing then return .noValue else return .decision (← Eval.toText call v)

/-- What the decision function decides for a URL and its host. -/
def decide (e : Engine) (w : World) (url host : String) : Outcome String × Engine :=
  match e.run w (callDecision url host) with
  | (.ok (.decision u), e) => (.ok (Units.toEscapedString u), e)
  | (.ok .undefined, e) => (.error (.evaluation notDefined), e)
  | (.ok .noValue, e) =>
    (.error (.evaluation ("`" ++ decisionFunction ++ "` returned no value")), e)
  | (.error (.shown text), e) => (.error (.evaluation text), e)
  | (.error (.broken message), e) =>
    (.error (.evaluation ("native function panicked: " ++ message)), e)

end Engine

end ProxyAutoConfig
