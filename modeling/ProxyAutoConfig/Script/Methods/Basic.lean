import ProxyAutoConfig.Script.Methods.Array

/-!
# Functions of numbers, objects and functions, and makers

A maker converts its argument when it is called, and makes an object when it is called behind
`new`; for errors, arrays, objects and patterns the two are the same.
-/

namespace ProxyAutoConfig.Script

open ProxyAutoConfig.Text

/-! ## Numbers -/

namespace Number

/-- The value of a digit in a base. -/
def digitOf? (base : Nat) (c : Char) : Option Nat :=
  let n :=
    if c.isDigit then c.toNat - 0x30
    else if c.isLower then c.toNat - 0x61 + 10
    else if c.isUpper then c.toNat - 0x41 + 10
    else 36
  if n < base then some n else none

/-- A whole number in front of a text, in a base from two to thirty-six; base zero is ten, or
sixteen behind its mark. -/
def readInteger (cs : List Char) (base : Nat) : Number :=
  let cs := cs.dropWhile isScriptBlank
  let (negative, cs) := match cs with
    | '-' :: rest => (true, rest)
    | '+' :: rest => (false, rest)
    | cs => (false, cs)
  let (base, cs) := match cs with
    | '0' :: m :: rest =>
      if (m == 'x' || m == 'X') && (base == 0 || base == 16) then (16, rest) else (base, cs)
    | cs => (base, cs)
  let base := if base = 0 then 10 else base
  if base < 2 ∨ 36 < base then nan
  else
    match (cs.takeWhile fun c => (digitOf? base c).isSome).filterMap (digitOf? base) with
    | [] => nan
    | digits =>
      let n := ofDecimal (digits.foldl (fun done d => done * base + d) 0) 0
      if negative then n.neg else n

/-- A decimal in front of a text. -/
def readFront (cs : List Char) : Number :=
  let cs := cs.dropWhile isScriptBlank
  let (negative, cs) := match cs with
    | '-' :: rest => (true, rest)
    | '+' :: rest => (false, rest)
    | cs => (false, cs)
  let n :=
    if "Infinity".toList.isPrefixOf cs then infinity
    else ((readDecimal? cs).map (·.1)).getD nan
  if negative then n.neg else n

/-- The greatest integer that is not above a number. -/
def floor : Number → Number
  | int n => int n
  | float x => ofFloat x.floor

/-- The nearest integer; halves go up. -/
def round : Number → Number
  | int n => int n
  | float x =>
    let low := x.floor
    let near := if x - low < 0.5 then low else low + 1.0
    if near == 0.0 && x < 0.0 then negativeZero else ofFloat near

/-- A number in the digits of a base. -/
def textIn (base : Nat) : Number → List Char
  | int n => (if n < 0 then ['-'] else []) ++ Nat.toDigits base n.natAbs
  | float x => floatText x

/-- The outermost of some numbers: none counts if one is no number. -/
def extreme (before : Number → Number → Bool) (start : Number) (xs : List Number) : Number :=
  xs.foldl (fun best x =>
    if best.isNaN || x.isNaN then nan else if before x best then x else best) start

/-- Less than, where the negative zero is less than zero. -/
def below : Number → Number → Bool
  | float x, int 0 => x < 0.0 || x == 0.0
  | a, b => a.less b

end Number

namespace Eval

/-- The functions of numbers. -/
def numberFunction (call : Caller) (m : NumberFunction) (arguments : List Value) :
    Eval Value := do
  let first := argument arguments 0
  match m with
  | .parseInteger =>
    let u ← toText call first
    let base := (← toNumber call (argument arguments 1)).toBits.toInt
    return .number (if base < 0 then .nan else Number.readInteger (Units.escaped u) base.toNat)
  | .parseDecimal => return .number (Number.readFront (Units.escaped (← toText call first)))
  | .isNaN => return .bool (← toNumber call first).isNaN
  | .isFinite =>
    let n ← toNumber call first
    return .bool (!n.isNaN && n.truncate?.isSome)
  | .floor => return .number (← toNumber call first).floor
  | .ceil => return .number (← toNumber call first).neg.floor.neg
  | .round => return .number (← toNumber call first).round
  | .abs =>
    let n ← toNumber call first
    return .number (if n.below (.int 0) then n.neg else n)
  | .sqrt => return .number (Number.ofFloat (← toNumber call first).toFloat.sqrt)
  | .pow => return .number ((← toNumber call first).pow (← toNumber call (argument arguments 1)))
  | .min => return .number (Number.extreme Number.below .infinity (← arguments.mapM (toNumber call)))
  | .max =>
    return .number (Number.extreme (fun a b => b.below a) Number.infinity.neg
      (← arguments.mapM (toNumber call)))

/-! ## Objects and functions -/

/-- The kind of an object in a word. -/
def kindWord (o : Object) : String :=
  match o.kind with
  | .plain => "Object"
  | .array _ => "Array"
  | .function _ => "Function"
  | .error => "Error"
  | .text _ => "String"
  | .number _ => "Number"
  | .bool _ => "Boolean"
  | .pattern _ => "RegExp"

/-- The text of a member that an error shows; `other` where it has none. -/
def errorPart (call : Caller) (r : Ref) (k : Key) (other : String) : Eval Units := do
  match ← get r k with
  | .undefined => return Units.ofString other
  | v => toText call v

/-- A name and a message with a colon between them, unless one of them is empty. -/
def named (name message : Units) : Units :=
  if name.isEmpty then message
  else if message.isEmpty then name
  else name ++ Units.ofString ": " ++ message

/-- The methods that all other values have. -/
def objectMethod (call : Caller) (m : ObjectMethod) (self : Value) (arguments : List Value) :
    Eval Value := do
  match m with
  | .toText =>
    let word ← match self with
      | .undefined => pure "Undefined"
      | .null => pure "Null"
      | v => do
        match ← box v with
        | .object r => pure (kindWord (← object r))
        | _ => pure "Object"
    return .ofString ("[object " ++ word ++ "]")
  | .toValue =>
    if self.isMissing then fail .typeError "a missing value is no object" else box self
  | .hasOwn =>
    let k ← toKey call (argument arguments 0)
    if self.isMissing then fail .typeError "a missing value is no object"
    match ← box self with
    | .object r => return .bool ((← object r).own? k).isSome
    | _ => return .bool false
  | .numberToText =>
    match ← heldValue self with
    | .number n =>
      match argument arguments 0 with
      | .undefined => return .text (Units.ofChars n.text)
      | v =>
        let base := (← toNumber call v).clamp 0 100
        if base < 2 ∨ 36 < base then fail .rangeError "there is no such base"
        return .text (Units.ofChars (if base = 10 then n.text else n.textIn base.toNat))
    | _ => fail .typeError "a method of numbers is called on something else"
  | .numberToValue =>
    match ← heldValue self with
    | .number n => return .number n
    | _ => fail .typeError "a method of numbers is called on something else"
  | .boolToText =>
    match ← heldValue self with
    | .bool b => return .text (Value.bool b).plainText
    | _ => fail .typeError "a method of booleans is called on something else"
  | .boolToValue =>
    match ← heldValue self with
    | .bool b => return .bool b
    | _ => fail .typeError "a method of booleans is called on something else"
  | .errorToText =>
    match self with
    | .object r =>
      let name ← errorPart call r nameKey "Error"
      return .text (named name (← errorPart call r messageKey ""))
    | _ => fail .typeError "a method of errors is called on something else"

/-- The methods of functions. -/
def functionMethod (call : Caller) (m : FunctionMethod) (self : Value) (arguments : List Value) :
    Eval Value := do
  if (← code? self).isNone then fail .typeError "a method of functions is called on something else"
  match m with
  | .toText =>
    let name ← match ← getMember self nameKey with
      | .text u => pure u
      | _ => pure []
    return .text (Units.ofString "function " ++ name ++
      Units.ofString "() \x7b [native code] \x7d")
  | .call => call (.apply self (argument arguments 0) (arguments.drop 1))
  | .apply =>
    let list ← match argument arguments 1 with
      | .undefined | .null => pure []
      | .object r => placed call (.object r)
      | _ => fail .typeError "a list of arguments is needed"
    call (.apply self (argument arguments 0) (list.map (·.getD .undefined)))

/-! ## Makers -/

/-- Make an error with the text of an argument as its message. -/
def makeError (call : Caller) (kind : ErrorKind) (message : Value) : Eval Value := do
  match message with
  | .undefined => return .object (← allocate ⟨.error, some (Well.error kind), []⟩)
  | v => newError kind (← toText call v)

/-- Make an array: of a length, or of items. -/
def makeArray (arguments : List Value) : Eval Value := do
  match arguments with
  | [.number n] =>
    match n with
    | .int i =>
      if i < 0 ∨ Object.itemLimit < i then fail .rangeError "there is no array of this length"
      let made ← newArray []
      setMember made lengthKey (.number (.int i))
      return made
    | .float _ => fail .rangeError "there is no array of this length"
  | items => newArray items

/-- Make a pattern of a text and flags. -/
def makePattern (call : Caller) (arguments : List Value) : Eval Value := do
  match ← pattern? (argument arguments 0), argument arguments 1 with
  | some (_, p), .undefined => newPattern p
  | some (_, p), flags => read p.source flags
  | none, flags =>
    let source ← match argument arguments 0 with
      | .undefined => pure []
      | v => toText call v
    read source flags
where
  /-- Read a pattern. -/
  read (source : Units) (flags : Value) : Eval Value := do
    let flags ← match flags with
      | .undefined => pure []
      | v => toText call v
    let source := if source.isEmpty then Units.ofString "(?:)" else source
    match Regex.Pattern.ofText? (Units.escaped source) (Units.escaped flags) with
    | some p => newPattern p
    | none => fail .syntaxError "a pattern cannot be read"

/-- What a maker makes. -/
def make (call : Caller) (m : Maker) (new : Bool) (arguments : List Value) : Eval Value := do
  let first := argument arguments 0
  match m with
  | .object => if first.isMissing then return .object (← newObject) else box first
  | .function => fail .evalError "no function is made from text"
  | .text =>
    let u ← if arguments.isEmpty then pure [] else toText call first
    if new then box (.text u) else return .text u
  | .number =>
    let n ← if arguments.isEmpty then pure (.int 0) else toNumber call first
    if new then box (.number n) else return .number n
  | .bool => if new then box (.bool first.isTrue) else return .bool first.isTrue
  | .array => makeArray arguments
  | .pattern => makePattern call arguments
  | .error kind => makeError call kind first

/-- The functions that belong to makers. -/
def makerFunction (call : Caller) (m : MakerFunction) (arguments : List Value) : Eval Value := do
  let first := argument arguments 0
  match m with
  | .keys =>
    if first.isMissing then fail .typeError "a missing value is no object"
    match ← box first with
    | .object r => newArray ((← object r).keys.map fun k => .text k.text)
    | _ => newArray []
  | .isArray => return .bool (← arrayItems? first).isSome
  | .fromCodes =>
    let units ← arguments.mapM fun v => do
      return (← toNumber call v).toBits.toNat.toUInt16
    return .text units

/-! ## All functions -/

/-- Call a function that every script has. -/
def applyBuiltin (call : Caller) (b : Builtin) (self : Value) (arguments : List Value) :
    Eval Value :=
  match b with
  | .make m => make call m false arguments
  | .maker m => makerFunction call m arguments
  | .text m => textMethod call m self arguments
  | .array m => arrayMethod call m self arguments
  | .pattern m => patternMethod call m self arguments
  | .function m => functionMethod call m self arguments
  | .object m => objectMethod call m self arguments
  | .number m => numberFunction call m arguments

/-- Make an object with a function that every script has. -/
def constructBuiltin (call : Caller) (b : Builtin) (arguments : List Value) : Eval Value :=
  match b with
  | .make m => make call m true arguments
  | _ => fail .typeError "this function makes no objects"

end Eval

end ProxyAutoConfig.Script
