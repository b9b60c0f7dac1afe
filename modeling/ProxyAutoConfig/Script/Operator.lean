import ProxyAutoConfig.Script.Convert

/-!
# Operators

What the operators of the language do with the values of their operands.
-/

namespace ProxyAutoConfig.Script

open ProxyAutoConfig.Text

namespace Eval

/-- An operator on one value. -/
def unary (call : Caller) (op : UnaryOp) (v : Value) : Eval Value :=
  match op with
  | .plus => return .number (← toNumber call v)
  | .minus => return .number (← toNumber call v).neg
  | .not => return .bool !v.isTrue
  | .complement => return .number (← toNumber call v).complement
  | .typeOf => return .ofString (← typeWord v)
  | .discard => return .undefined

/-- Add numbers, or put texts together where either value is a text. -/
def add (call : Caller) (a b : Value) : Eval Value :=
  match a, b with
  | .number x, .number y => pure (.number (x.add y))
  | .text x, .text y => pure (.text (x ++ y))
  | a, b => do
    match ← toPlain call a, ← toPlain call b with
    | .text x, y => return .text (x ++ y.plainText)
    | x, .text y => return .text (x.plainText ++ y)
    | x, y => return .number (x.plainNumber.add y.plainNumber)

/-- An operation on the numbers of two values. -/
def arithmetic (call : Caller) (f : Number → Number → Number) (a b : Value) : Eval Value := do
  let x ← toNumber call a
  let y ← toNumber call b
  return .number (f x y)

/-- The parents of an object, as far as `fuel` reaches, have a given one among them. -/
def descends (objects : Array Object) (ancestor : Ref) : Nat → Ref → Bool
  | 0, _ => false
  | fuel + 1, r =>
    match (objects[r]?).bind (·.parent) with
    | some parent => parent == ancestor || descends objects ancestor fuel parent
    | none => false

/-- The value was made by the function. -/
def instanceOf (a b : Value) : Eval Bool := do
  match ← code? b, b, a with
  | none, _, _ => fail .typeError "the right side of instanceof is no function"
  | some _, .object f, .object r =>
    match ← get f prototypeKey with
    | .object p => fun m => .ok (descends m.objects p (m.objects.size + 1) r) m
    | _ => fail .typeError "a prototype is no object"
  | some _, _, _ => return false

/-- The value has a property. -/
def isIn (call : Caller) (a b : Value) : Eval Bool := do
  match b with
  | .object r => return (← property? r (← toKey call a)).isSome
  | _ => fail .typeError "the right side of in is no object"

/-- An operator on two values. -/
def binary (call : Caller) (op : BinaryOp) (a b : Value) : Eval Value :=
  match op with
  | .add => add call a b
  | .sub => arithmetic call .sub a b
  | .mul => arithmetic call .mul a b
  | .div => arithmetic call .div a b
  | .rem => arithmetic call .rem a b
  | .pow => arithmetic call .pow a b
  | .equal => return .bool (← looseEqual call a b)
  | .notEqual => return .bool !(← looseEqual call a b)
  | .same => return .bool (a.same b)
  | .notSame => return .bool !(a.same b)
  | .less => return .bool (plainLess? (← toPlain call a) (← toPlain call b) == some true)
  | .greater => do
    let x ← toPlain call a
    let y ← toPlain call b
    return .bool (plainLess? y x == some true)
  | .lessEqual => do
    let x ← toPlain call a
    let y ← toPlain call b
    return .bool (plainLess? y x == some false)
  | .greaterEqual => return .bool (plainLess? (← toPlain call a) (← toPlain call b) == some false)
  | .bitAnd => arithmetic call (.bitwise (· &&& ·)) a b
  | .bitOr => arithmetic call (.bitwise (· ||| ·)) a b
  | .bitXor => arithmetic call (.bitwise (· ^^^ ·)) a b
  | .shiftLeft => arithmetic call .shiftLeft a b
  | .shiftRight => arithmetic call .shiftRight a b
  | .shiftRightZero => arithmetic call .shiftRightZero a b
  | .isIn => return .bool (← isIn call a b)
  | .instanceOf => return .bool (← instanceOf a b)

/-- The value decides without the second operand. -/
def decides (op : LogicalOp) (v : Value) : Bool :=
  match op with
  | .and => !v.isTrue
  | .or => v.isTrue
  | .coalesce => !v.isMissing

end Eval

end ProxyAutoConfig.Script
