import ProxyAutoConfig.Script.Evaluate

/-!
# Calls

Carrying out calls of functions, and how deep they may go.

**Depth.** A computation has a number of levels for calls of script functions. Every such call
takes one level for as long as it runs, and where none is left no function at all can be called:
the whole computation halts, and no script can catch this. Functions of the engine and of the
host take no level themselves, so what they call in turn runs at the level of their caller; how
far they may nest among themselves is bounded separately (`nesting`).

A host function that breaks down leaves the levels of the calls under way taken for good.
-/

namespace ProxyAutoConfig.Script

open ProxyAutoConfig.Text

/-- What calls need of their surroundings. -/
structure Embedding where
  /-- The host functions: each is given a way to carry out calls, and its arguments. -/
  run : Nat → Caller → List Value → Eval Value
  /-- The rounds of loops that a call may have. -/
  rounds : Nat

namespace Eval

/-- Run a call at the next level. A breakdown leaves the level taken. -/
def nested {α : Type} (x : Eval α) : Eval α
  | ⟨objects, scopes, depth, rounds⟩ =>
    match x ⟨objects, scopes, depth + 1, 0⟩ with
    | .ok a m => .ok a { m with depth, rounds }
    | .error (.broken message) m => .error (.broken message) m
    | .error h m => .error h { m with depth, rounds }

/-- Make the object through which a function sees its arguments. -/
def newArguments (arguments : List Value) : Eval Value := do
  let items := arguments.zipIdx.map fun (v, i) => (Key.index i, Property.open v)
  return .object (← allocate ⟨.plain, some Well.object,
    items ++ [(lengthKey, Property.hidden (.ofNat arguments.length))]⟩)

/-- The name under which a function finds its arguments. -/
def argumentsName : Units := Units.ofString "arguments"

/-- The names of a function and their first values, its own functions aside: parameters,
arguments, variables, and names that are declared in its outermost block. -/
def functionNames (f : Function) (arguments : List Value) (all : Option Value) :
    List (Units × Binding) :=
  let info := f.info
  let add (names : List (Units × Binding)) (x : Units) (v : Value) (again : Bool) :=
    if names.any (·.1 == x) && !again then names else Scope.insert x ⟨some v, .free⟩ names
  let names := info.parameters.zipIdx.foldl
    (fun names (x, i) => add names x (argument arguments i) true) []
  let names := match all with
    | some v => add names argumentsName v false
    | none => names
  let names := (info.hoisted ++ (Stmt.functions f.body).map (·.info.name)).foldl
    (fun names x => add names x .undefined false) names
  (unstarted f.body).foldl (fun names (x, b) => Scope.insert x b names) names

/-- Call a script function. -/
def runFunction (w : Surroundings) (f : Function) (scope : Nat) (self : Value)
    (arguments : List Value) : Eval Value := do
  let all ←
    if f.info.usesArguments && !f.info.arrow then do
      let v ← newArguments arguments
      pure (some v)
    else pure none
  let frame : Frame := ⟨← newScope ⟨functionNames f arguments all, some scope⟩, self⟩
  startFunctions f.body frame
  match ← Stmt.execAll w f.body frame with
  | .returned v => return v
  | _ => return .undefined

/-- The parent of what a function makes. -/
def prototypeOf (f : Value) : Eval Ref := do
  match ← getMember f prototypeKey with
  | .object p => return p
  | _ => return Well.object

/-- Call what can be called: script functions run their calls by `lower`, all others by
`beside`. -/
def applyCode (h : Embedding) (lower beside : Caller) (code : Code) (self : Value)
    (arguments : List Value) : Eval Value :=
  match code with
  | .builtin b => applyBuiltin beside b self arguments
  | .host i => h.run i beside arguments
  | .emptyClass => fail .typeError "a class is called without new"
  | .script f scope own => do
    let self ← if f.info.arrow then pure own else box self
    nested (runFunction ⟨lower, h.rounds⟩ f scope self arguments)

/-- Make an object with what can be called. -/
def constructCode (h : Embedding) (lower beside : Caller) (f : Value) (code : Code)
    (arguments : List Value) : Eval Value :=
  match code with
  | .builtin b => constructBuiltin beside b arguments
  | .host _ => fail .typeError "a host function makes no objects"
  | .emptyClass => do
    return .object (← allocate ⟨.plain, some (← prototypeOf f), []⟩)
  | .script g scope _ =>
    if g.info.arrow then fail .typeError "an arrow function makes no objects"
    else do
      let made ← allocate ⟨.plain, some (← prototypeOf f), []⟩
      match ← nested (runFunction ⟨lower, h.rounds⟩ g scope (.object made) arguments) with
      | .object r => return .object r
      | _ => return .object made

/-- Carry out a call. -/
def perform (h : Embedding) (lower beside : Caller) : Call → Eval Value
  | .apply f self arguments => do
    match ← code? f with
    | some code => applyCode h lower beside code self arguments
    | none => fail .typeError "a value that is called is no function"
  | .construct f arguments => do
    match ← code? f with
    | some code => constructCode h lower beside f code arguments
    | none => fail .typeError "a value behind new is no function"

/-- How far functions of the engine and of the host may nest within one level. -/
def nesting : Nat := 1024

/-- Carry out calls at one level; script functions run the next one. -/
def callerBeside (h : Embedding) (lower : Caller) : Nat → Caller
  | 0 => fun _ => throw .limit
  | n + 1 => perform h lower (callerBeside h lower n)

/-- Carry out calls with so many levels left. -/
def caller (h : Embedding) : Nat → Caller
  | 0 => fun _ => throw .limit
  | levels + 1 => callerBeside h (caller h levels) nesting

end Eval

end ProxyAutoConfig.Script
