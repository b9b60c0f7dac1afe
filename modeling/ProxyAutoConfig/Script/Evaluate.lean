import ProxyAutoConfig.Script.Methods.Basic
import ProxyAutoConfig.Script.Operator
import ProxyAutoConfig.Script.Scope

/-!
# Running syntax

What expressions and statements do, by recursion along the syntax. The two things that syntax
does not bound are put into the hands of others: calls are carried out by whoever runs the
syntax, and a loop goes on for as many rounds as are allowed.

**Rounds.** A call has a number of rounds for all of its loops together. A loop that would start
a round beyond that number halts the whole computation, and no script can catch this.
-/

namespace ProxyAutoConfig.Script

open ProxyAutoConfig.Text

/-- What running needs of its surroundings. -/
structure Surroundings where
  call : Caller
  /-- The rounds of loops that a call may have. -/
  rounds : Nat

/-- Where syntax runs. -/
structure Frame where
  scope : Nat
  /-- What `this` stands for. -/
  self : Value

namespace Completion

/-- How a loop ends after a round that ended so, or none where it goes on; `own` are the labels
of the loop. -/
def afterRound (own : List Units) : Completion → Option Completion
  | normal => none
  | continued none => none
  | continued (some l) => if own.contains l then none else some (continued (some l))
  | left none => some normal
  | c => some c

/-- How a switch ends whose cases ended so. -/
def afterSwitch : Completion → Completion
  | left none => normal
  | c => c

/-- How a labeled statement ends whose body ended so. -/
def afterLabel (label : Units) : Completion → Completion
  | left (some l) => if l = label then normal else left (some l)
  | c => c

end Completion

namespace Eval

/-! ## Declarations -/

/-- What is done to a name that is declared so. -/
def fixity : DeclarationKind → Fixity
  | .const => .constant
  | .var | .let => .free

/-- Names without values yet. -/
def unstarted (body : List Stmt) : List (Units × Binding) :=
  (Stmt.lexical body).map fun (kind, x) => (x, ⟨none, fixity kind⟩)

/-- Give a function an object as the parent of what it makes. -/
def withPrototype (f : Ref) (writable : Bool) : Eval Unit := do
  let p ← newObject
  change p (·.define constructorKey (Property.hidden (.object f)))
  change f (·.define prototypeKey ⟨.object p, writable, false, false⟩)

/-- Make a function of syntax. -/
def makeFunction (f : Function) (frame : Frame) : Eval Value := do
  let info := f.info
  if info.arrow then
    return .object (← newFunction (.script f frame.scope frame.self) info.name
      info.parameters.length)
  else
    let scope ←
      if info.ownName then newScope ⟨[(info.name, ⟨none, .ownName⟩)], some frame.scope⟩
      else pure frame.scope
    let r ← newFunction (.script f scope .undefined) info.name info.parameters.length
    withPrototype r true
    if info.ownName then start scope info.name (.object r)
    return .object r

/-- Make a class without members. -/
def makeClass (x : Units) : Eval Value := do
  let r ← newFunction .emptyClass x 0
  withPrototype r false
  return .object r

/-- Make the functions that statements declare, in a scope that may have their names already. -/
def startFunctions (body : List Stmt) (frame : Frame) : Eval Unit :=
  (Stmt.functions body).forM fun f => do
    start frame.scope f.info.name (← makeFunction f frame)

/-- Enter a block: names that are declared in it get a scope. -/
def enterBlock (body : List Stmt) (frame : Frame) : Eval Frame := do
  let functions := (Stmt.functions body).map fun f => (f.info.name, ⟨none, .free⟩)
  match unstarted body ++ functions with
  | [] => return frame
  | names =>
    let inner := { frame with scope := ← newScope ⟨names, some frame.scope⟩ }
    startFunctions body inner
    return inner

/-! ## Loops -/

/-- Count a round, if one is left. -/
def countRound (limit : Nat) : Eval Unit := fun m =>
  if limit < m.rounds then .error .limit m else .ok () { m with rounds := m.rounds + 1 }

/-- A loop with a test in front of each round. The number of rounds runs out before `fuel`. -/
def whileLoop (limit : Nat) (own : List Units) (test : Eval Value) (body : Eval Completion) :
    Nat → Eval Completion
  | 0 => throw .limit
  | fuel + 1 => do
    countRound limit
    if (← test).isTrue then
      match (← body).afterRound own with
      | some c => return c
      | none => whileLoop limit own test body fuel
    else return .normal

/-- A loop with a test behind each round. -/
def doLoop (limit : Nat) (own : List Units) (test : Eval Value) (body : Eval Completion) :
    Nat → Eval Completion
  | 0 => throw .limit
  | fuel + 1 => do
    match (← body).afterRound own with
    | some c => return c
    | none =>
      countRound limit
      if (← test).isTrue then doLoop limit own test body fuel else return .normal

/-- A scope for another round: the names of which every round has its own keep their values. -/
def freshScope (fresh : List Units) (frame : Frame) : Eval Frame := fun m =>
  if fresh.isEmpty then .ok frame m
  else
    let s := m.scopes[frame.scope]?.getD default
    .ok { frame with scope := m.scopes.size } { m with scopes := m.scopes.push s }

/-- A loop with a test in front of each round and an update behind it. -/
def forLoop (limit : Nat) (own fresh : List Units) (test update : Frame → Eval Value)
    (body : Frame → Eval Completion) : Nat → Frame → Eval Completion
  | 0, _ => throw .limit
  | fuel + 1, frame => do
    if (← test frame).isTrue then
      match (← body frame).afterRound own with
      | some c => return c
      | none =>
        let next ← freshScope fresh frame
        countRound limit
        let _ ← update next
        forLoop limit own fresh test update body fuel next
    else return .normal

/-- Rounds enough for every loop that stays within a limit. -/
def enough (limit : Nat) : Nat :=
  limit + 2

/-! ## Parts of expressions -/

/-- One more, or one less. -/
def step (increment : Bool) (n : Number) : Number :=
  if increment then n.add (.int 1) else n.sub (.int 1)

/-- An array of the values of its items; what is missing in the syntax is missing in it. -/
def arrayOf (items : List Expr) (values : List Value) : Eval Value := do
  let held := (items.zip values).map fun
    | (.hole, _) => none
    | (_, v) => some v
  let made ← newArray []
  if let .object r := made then setItems r held
  return made

/-- What an assignment changes. -/
inductive Spot where
  | name (x : Units)
  | member (object : Value) (key : Key)

/-- What stands at a spot. -/
def readSpot (frame : Frame) : Spot → Eval Value
  | .name x => lookup frame.scope x
  | .member o k => getMember o k

/-- Put a value at a spot. -/
def writeSpot (frame : Frame) (v : Value) : Spot → Eval Unit
  | .name x => assign frame.scope x v
  | .member o k => setMember o k v

/-- The key of a member of a value; a missing value has none. -/
def memberKey (call : Caller) (o k : Value) : Eval Key := do
  if o.isMissing then fail .typeError "a missing value has no members"
  toKey call k

end Eval

open Eval

/-! ## Expressions -/

mutual

/-- The value of an expression. -/
def Expr.eval (w : Surroundings) : Expr → Frame → Eval Value
  | .undefined => fun _ => return .undefined
  | .null => fun _ => return .null
  | .bool b => fun _ => return .bool b
  | .number n => fun _ => return .number n
  | .text u => fun _ => return .text u
  | .pattern p => fun _ => newPattern p
  | .name x => fun frame => lookup frame.scope x
  | .thisValue => fun frame => return frame.self
  | .array items => fun frame => do arrayOf items (← Expr.evalAll w items frame)
  | .hole => fun _ => return .undefined
  | .object entries => fun frame => do
    let r ← newObject
    Entry.defineAll w entries r frame
    return .object r
  | .function f => fun frame => makeFunction f frame
  | .unary op e => fun frame => do unary w.call op (← e.eval w frame)
  | .typeOfName x => fun frame => do
    match ← lookup? frame.scope x with
    | some v => unary w.call .typeOf v
    | none => return .ofString "undefined"
  | .delete t => fun frame => do
    match ← t.eval w frame with
    | .name x => return .bool (← deleteName frame.scope x)
    | .member o k => return .bool (← deleteMember o k)
  | .update increment front t => fun frame => do
    let spot ← t.eval w frame
    let old ← toNumber w.call (← readSpot frame spot)
    let new := step increment old
    writeSpot frame (.number new) spot
    return .number (if front then new else old)
  | .binary op a b => fun frame => do
    let x ← a.eval w frame
    let y ← b.eval w frame
    binary w.call op x y
  | .logical op a b => fun frame => do
    let x ← a.eval w frame
    if decides op x then return x else b.eval w frame
  | .conditional c a b => fun frame => do
    if (← c.eval w frame).isTrue then a.eval w frame else b.eval w frame
  | .sequence a b => fun frame => do
    let _ ← a.eval w frame
    b.eval w frame
  | .assign t e => fun frame => do
    let spot ← t.eval w frame
    let v ← e.eval w frame
    writeSpot frame v spot
    return v
  | .assignBinary op t e => fun frame => do
    let spot ← t.eval w frame
    let old ← readSpot frame spot
    let v ← binary w.call op old (← e.eval w frame)
    writeSpot frame v spot
    return v
  | .assignLogical op t e => fun frame => do
    let spot ← t.eval w frame
    let old ← readSpot frame spot
    if decides op old then return old
    else
      let v ← e.eval w frame
      writeSpot frame v spot
      return v
  | .member o k => fun frame => do
    let object ← o.eval w frame
    let key ← k.eval w frame
    getMember object (← memberKey w.call object key)
  | .call f arguments => fun frame => do
    let function ← f.eval w frame
    let values ← Expr.evalAll w arguments frame
    w.call (.apply function .undefined values)
  | .callMember o k arguments => fun frame => do
    let object ← o.eval w frame
    let key ← k.eval w frame
    let function ← getMember object (← memberKey w.call object key)
    let values ← Expr.evalAll w arguments frame
    w.call (.apply function object values)
  | .new f arguments => fun frame => do
    let function ← f.eval w frame
    let values ← Expr.evalAll w arguments frame
    w.call (.construct function values)

/-- The values of expressions, from the first to the last. -/
def Expr.evalAll (w : Surroundings) : List Expr → Frame → Eval (List Value)
  | [] => fun _ => return []
  | e :: rest => fun frame => do
    let v ← e.eval w frame
    return v :: (← Expr.evalAll w rest frame)

/-- The spot that a target stands for. -/
def Target.eval (w : Surroundings) : Target → Frame → Eval Spot
  | .name x => fun _ => return .name x
  | .member o k => fun frame => do
    let object ← o.eval w frame
    let key ← k.eval w frame
    return .member object (← memberKey w.call object key)

/-- Give an object the entries of its syntax. -/
def Entry.defineAll (w : Surroundings) : List Entry → Ref → Frame → Eval Unit
  | [] => fun _ _ => return
  | e :: rest => fun r frame => do
    e.define w r frame
    Entry.defineAll w rest r frame

/-- Give an object an entry of its syntax. -/
def Entry.define (w : Surroundings) : Entry → Ref → Frame → Eval Unit
  | .mk key e => fun r frame => do
    let v ← e.eval w frame
    change r (·.define (Key.ofUnits key) (Property.open v))

end

/-! ## Statements -/

/-- It is the default case. -/
def Case.isDefault : Case → Bool
  | .test _ _ => false
  | .default _ => true

mutual

/-- Run a statement; `own` are the labels in front of it. -/
def Stmt.exec (w : Surroundings) : Stmt → List Units → Frame → Eval Completion
  | .empty => fun _ _ => return .normal
  | .expr e => fun _ frame => do
    let _ ← e.eval w frame
    return .normal
  | .declare kind x e => fun _ frame => do
    let v ← e.eval w frame
    if kind = .var then assign frame.scope x v else start frame.scope x v
    return .normal
  | .function _ => fun _ _ => return .normal
  | .emptyClass x => fun _ frame => do
    start frame.scope x (← makeClass x)
    return .normal
  | .many body => fun _ frame => Stmt.execAll w body frame
  | .block body => fun _ frame => do
    let inner ← enterBlock body frame
    Stmt.execAll w body inner
  | .ifElse c a b => fun _ frame => do
    if (← c.eval w frame).isTrue then a.exec w [] frame else b.exec w [] frame
  | .whileLoop c body => fun own frame =>
    Eval.whileLoop w.rounds own (c.eval w frame) (body.exec w [] frame) (enough w.rounds)
  | .doLoop body c => fun own frame =>
    Eval.doLoop w.rounds own (c.eval w frame) (body.exec w [] frame) (enough w.rounds)
  | .forLoop first fresh c update body => fun own frame => do
    let outer ← enterBlock [first] frame
    let _ ← first.exec w [] outer
    let kept := if (Stmt.lexical [first]).any (·.1 == .let) then fresh else []
    let inner ← freshScope kept outer
    Eval.forLoop w.rounds own kept (c.eval w) (update.eval w) (body.exec w [])
      (enough w.rounds) inner
  | .switch subject cases => fun _ frame => do
    let v ← subject.eval w frame
    let inner ← enterBlock (cases.flatMap Case.statements) frame
    match ← Case.find w cases v 0 inner with
    | some n => return (← Case.execFrom w cases n inner).afterSwitch
    | none => return (← Case.execDefault w cases inner).afterSwitch
  | .ret e => fun _ frame => do return .returned (← e.eval w frame)
  | .throw e => fun _ frame => do throwValue (← e.eval w frame)
  | .tryCatch body parameter handler => fun _ frame => do
    let inner ← enterBlock body frame
    match ← capture (Stmt.execAll w body inner) with
    | .ok c => return c
    | .error v =>
      let caught ← match parameter with
        | some x => newScope ⟨[(x, ⟨some v, .free⟩)], some frame.scope⟩
        | none => pure frame.scope
      let inner ← enterBlock handler { frame with scope := caught }
      Stmt.execAll w handler inner
  | .tryFinally body last => fun _ frame => do
    let outcome ← capture (body.exec w [] frame)
    match ← last.exec w [] frame with
    | .normal =>
      match outcome with
      | .ok c => return c
      | .error v => throwValue v
    | c => return c
  | .leave label => fun _ _ => return .left label
  | .next label => fun _ _ => return .continued label
  | .labeled label body => fun own frame => do
    return (← body.exec w (label :: own) frame).afterLabel label

/-- Run statements up to the first that does not end normally. -/
def Stmt.execAll (w : Surroundings) : List Stmt → Frame → Eval Completion
  | [] => fun _ => return .normal
  | s :: rest => fun frame => do
    match ← s.exec w [] frame with
    | .normal => Stmt.execAll w rest frame
    | c => return c

/-- The place of the first case whose expression has the value. -/
def Case.find (w : Surroundings) : List Case → Value → Nat → Frame → Eval (Option Nat)
  | [] => fun _ _ _ => return none
  | c :: rest => fun v n frame => do
    if ← c.holds w v frame then return some n else Case.find w rest v (n + 1) frame

/-- The expression of a case has the value. -/
def Case.holds (w : Surroundings) : Case → Value → Frame → Eval Bool
  | .test e _ => fun v frame => do return v.same (← e.eval w frame)
  | .default _ => fun _ _ => return false

/-- Run the cases from a place on. -/
def Case.execFrom (w : Surroundings) : List Case → Nat → Frame → Eval Completion
  | [] => fun _ _ => return .normal
  | c :: rest => fun n frame => do
    if 0 < n then Case.execFrom w rest (n - 1) frame
    else
      match ← c.exec w frame with
      | .normal => Case.execFrom w rest 0 frame
      | done => return done

/-- Run the cases from the default case on. -/
def Case.execDefault (w : Surroundings) : List Case → Frame → Eval Completion
  | [] => fun _ => return .normal
  | c :: rest => fun frame => do
    if c.isDefault then
      match ← c.exec w frame with
      | .normal => Case.execFrom w rest 0 frame
      | done => return done
    else Case.execDefault w rest frame

/-- Run the statements of a case. -/
def Case.exec (w : Surroundings) : Case → Frame → Eval Completion
  | .test _ body => Stmt.execAll w body
  | .default body => Stmt.execAll w body

end

end ProxyAutoConfig.Script
