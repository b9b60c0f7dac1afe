import ProxyAutoConfig.Script.Reader
import ProxyAutoConfig.Script.Realm

/-!
# Programs

Running whole scripts in one world, one after the other, and calling what they have defined.

Before its first statement runs, a script declares its names. Functions and variables become
properties of the global object that cannot be deleted; names of `let`, `const` and `class` stay
in the outermost scope, out of the global object's sight, and may not stand beside a property
that cannot be deleted.
-/

namespace ProxyAutoConfig.Script

open ProxyAutoConfig.Text

namespace Eval

/-! ## Global declarations -/

/-- The property of the global object under a name. -/
def globalProperty? (x : Units) : Eval (Option Property) := do
  return (← object Well.global).own? (Key.ofUnits x)

/-- The outermost scope has the name. -/
def isLexical (x : Units) : Eval Bool := fun m =>
  .ok ((m.scopes[globalScope]?).any fun s => s.names.any (·.1 == x)) m

/-- Halt, for a name is declared twice. -/
def declaredTwice {α : Type} : Eval α :=
  fail .syntaxError "a name is declared twice"

/-- A name of `let`, `const` or `class` may be declared. -/
def checkLexical (x : Units) : Eval Unit := do
  if ← isLexical x then declaredTwice
  match ← globalProperty? x with
  | some ⟨_, _, _, false⟩ => declaredTwice
  | _ => return

/-- A name of `var` or `function` may be declared beside those of `let`, `const` and `class`. -/
def checkVariable (x : Units) : Eval Unit := do
  if ← isLexical x then declaredTwice

/-- A function may become the property of its name. -/
def checkFunction (x : Units) : Eval Unit := do
  match ← globalProperty? x with
  | some ⟨_, writable, enumerable, false⟩ =>
    if writable && enumerable then return
    else fail .typeError "a fixed property cannot be redefined"
  | _ => return

/-- Make a function the property of its name. -/
def declareFunction (x : Units) (v : Value) : Eval Unit := do
  let p ← match ← globalProperty? x with
    | some ⟨_, writable, enumerable, false⟩ => pure ⟨v, writable, enumerable, false⟩
    | _ => pure ⟨v, true, true, false⟩
  change Well.global (·.define (Key.ofUnits x) p)

/-- Make a variable a property, unless there is one. -/
def declareVariable (x : Units) : Eval Unit := do
  if (← globalProperty? x).isNone then
    change Well.global (·.define (Key.ofUnits x) ⟨.undefined, true, true, false⟩)

/-- The frame of the statements of a script. -/
def globalFrame : Frame :=
  ⟨globalScope, .object Well.global⟩

/-- Declare the names of a script. -/
def declareGlobals (program : Program) : Eval Unit := do
  let lexical := unstarted program.body
  let functions := Stmt.functions program.body
  lexical.forM fun (x, _) => checkLexical x
  (functions.map (·.info.name) ++ program.hoisted).forM checkVariable
  functions.forM fun f => checkFunction f.info.name
  lexical.forM fun (x, b) => bind globalScope x b
  functions.forM fun f => do declareFunction f.info.name (← makeFunction f globalFrame)
  program.hoisted.forM declareVariable

/-! ## Running -/

/-- Run a script with so many levels of calls, its own included. -/
def runScript (h : Embedding) (levels : Nat) (program : Program) : Eval Unit := do
  declareGlobals program
  nested do
    let depth : Nat ← fun m => .ok m.depth m
    let _ ← Stmt.execAll ⟨caller h (levels - depth), h.rounds⟩ program.body globalFrame

/-- How the host carries out calls with so many levels, of which some may be taken. -/
def hostCaller (h : Embedding) (levels : Nat) : Caller := fun c m =>
  caller h (levels - m.depth) c m

/-- The text that is shown for a thrown value. A negative zero keeps its sign. -/
def thrownText (v : Value) : Eval Units := do
  match v with
  | .text u => return Units.ofString "\"" ++ u ++ Units.ofString "\""
  | .object r =>
    match (← object r).kind with
    | .error =>
      let part (k : Key) : Eval Units := do
        match ← get r k with
        | .object _ => return []
        | v => return v.plainText
      return named (← part nameKey) (← part messageKey)
    | _ => return Units.ofString "[object Object]"
  | .number n =>
    let sign := if n.isNegativeZero then "-" else ""
    return Units.ofString sign ++ v.plainText
  | v => return v.plainText

/-- What is shown when a limit has been exceeded. -/
def limitText : String := "RuntimeLimit: a limit has been exceeded"

end Eval

/-- How a computation failed. -/
inductive Fault where
  /-- It threw a value, or exceeded a limit; this is shown for it. -/
  | shown (text : String)
  /-- A host function broke down. -/
  | broken (message : String)
  deriving DecidableEq, Repr

/-- The outcome of a computation, and the heap after it. -/
def Eval.finish {α : Type} (x : Eval α) (m : Machine) : Except Fault α × Machine :=
  match x m with
  | .ok a m => (.ok a, m)
  | .error .limit m => (.error (.shown Eval.limitText), m)
  | .error (.broken message) m => (.error (.broken message), m)
  | .error (.thrown v) m =>
    match Eval.thrownText v m with
    | .ok u m => (.error (.shown (Units.toEscapedString u)), m)
    | .error _ m => (.error (.shown "a value that cannot be shown"), m)

end ProxyAutoConfig.Script
