import ProxyAutoConfig.Script.Heap

/-!
# Conversions

From any value to a text, a number or a key, and the comparisons that convert. To convert an
object is to call a method of it, so every conversion is given a way to carry out calls.
-/

namespace ProxyAutoConfig.Script

open ProxyAutoConfig.Text

/-- The key of the method that gives an object's text. -/
def toTextKey : Key := Key.ofString "toString"

/-- The key of the method that gives an object's value. -/
def toValueKey : Key := Key.ofString "valueOf"

namespace Value

/-- The kind of a value in a word, for one that is no object. -/
def plainType : Value → String
  | undefined => "undefined"
  | null => "object"
  | bool _ => "boolean"
  | number _ => "number"
  | text _ => "string"
  | object _ => "object"

/-- The text of a value that is no object. -/
def plainText : Value → Units
  | undefined => Units.ofString "undefined"
  | null => Units.ofString "null"
  | bool b => Units.ofString (if b then "true" else "false")
  | number n => Units.ofChars n.text
  | text u => u
  | object _ => []

/-- The number of a value that is no object; a surrogate that stands alone spells none. -/
def plainNumber : Value → Number
  | undefined => .nan
  | null => .int 0
  | bool b => .int (if b then 1 else 0)
  | number n => n
  | text u => Number.ofText (Units.escaped u)
  | object _ => .nan

/-- The same value: no conversion takes place. -/
def same : Value → Value → Bool
  | undefined, undefined => true
  | null, null => true
  | bool a, bool b => a == b
  | number a, number b => a.equal b
  | text a, text b => a == b
  | object a, object b => a == b
  | _, _ => false

end Value

namespace Eval

/-- The kind of a value in a word. -/
def typeWord (v : Value) : Eval String := do
  if (← code? v).isSome then return "function" else return v.plainType

/-- What the first of some methods gives that does not give an object. -/
def methodValue (call : Caller) (r : Ref) : List Key → Eval Value
  | [] => fail .typeError "an object has no plain value"
  | k :: ks => do
    let f ← get r k
    if (← code? f).isSome then
      match ← call (.apply f (.object r) []) with
      | .object _ => methodValue call r ks
      | v => return v
    else methodValue call r ks

/-- A value that is no object; a number is preferred. -/
def toPlain (call : Caller) (v : Value) : Eval Value :=
  match v with
  | .object r => methodValue call r [toValueKey, toTextKey]
  | v => pure v

/-- The text of a value. -/
def toText (call : Caller) (v : Value) : Eval Units :=
  match v with
  | .object r => do return (← methodValue call r [toTextKey, toValueKey]).plainText
  | v => pure v.plainText

/-- The number of a value. -/
def toNumber (call : Caller) (v : Value) : Eval Number := do
  return (← toPlain call v).plainNumber

/-- The key that a value is. -/
def toKey (call : Caller) (v : Value) : Eval Key :=
  match v with
  | .number (.int n) =>
    if 0 ≤ n ∧ n < 4294967295 then pure (.index n.toNat) else pure (Key.ofUnits v.plainText)
  | v => do return Key.ofUnits (← toText call v)

/-- Equal once both values are of one kind, where neither is an object. -/
def plainEqual (a b : Value) : Bool :=
  match a, b with
  | .undefined, .null | .null, .undefined => true
  | .undefined, _ | .null, _ | _, .undefined | _, .null => a.same b
  | .text x, .text y => x == y
  | a, b => a.plainNumber.equal b.plainNumber

/-- Equal once both values are of one kind. -/
def looseEqual (call : Caller) (a b : Value) : Eval Bool :=
  match a, b with
  | .object x, .object y => pure (x == y)
  | .object _, .undefined | .object _, .null | .undefined, .object _ | .null, .object _ =>
    pure false
  | .object _, b => do return plainEqual (← toPlain call a) b
  | a, .object _ => do return plainEqual a (← toPlain call b)
  | a, b => pure (plainEqual a b)

/-- Whether the one value is less than the other; none where a side is no number. -/
def plainLess? (a b : Value) : Option Bool :=
  match a, b with
  | .text x, .text y => some (decide (x < y))
  | a, b =>
    let x := a.plainNumber
    let y := b.plainNumber
    if x.isNaN || y.isNaN then none else some (x.less y)

end Eval

end ProxyAutoConfig.Script
