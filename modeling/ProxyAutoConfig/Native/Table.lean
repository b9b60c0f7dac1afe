import ProxyAutoConfig.Failure
import ProxyAutoConfig.Native.Function
import ProxyAutoConfig.Script.Program

/-!
# The table of host functions

Host functions under the names by which scripts call them. A table is given to scripts as a
whole or not at all: every name has to be a name of the script's language, and no name may come
twice.
-/

namespace ProxyAutoConfig

open ProxyAutoConfig.Script ProxyAutoConfig.Text

/-- A host function as scripts see it. -/
structure Native where
  name : String
  /-- The number of its parameters. -/
  length : Nat
  /-- It is given the world, a way to turn values into text, and its arguments. -/
  run : World → (Value → Eval Units) → List Value → Eval Value

/-- Host functions in the order in which they are given to scripts. -/
abbrev NativeTable := List Native

namespace Native

/-- An argument as text, in which surrogates that stand alone are written in letters. -/
def textArgument (toText : Value → Eval Units) (arguments : List Value) (i : Nat) :
    Eval String := do
  return Units.toEscapedString (← toText (Eval.argument arguments i))

/-- A function of the world and one text. -/
def ofText (name : String) (f : World → String → Value) : Native :=
  ⟨name, 1, fun w toText arguments => do return f w (← textArgument toText arguments 0)⟩

/-- A function of two texts. -/
def ofTexts (name : String) (f : String → String → Bool) : Native :=
  ⟨name, 2, fun _ toText arguments => do
    let a ← textArgument toText arguments 0
    let b ← textArgument toText arguments 1
    return .bool (f a b)⟩

/-- A function of the world alone. -/
def ofWorld (name : String) (f : World → String) : Native :=
  ⟨name, 0, fun w _ _ => return .ofString (f w)⟩

/-- The terms of a range: numbers without their fractions, and texts. Undefined is no term. -/
def terms (toText : Value → Eval Units) (arguments : List Value) : Eval (List Range.Term) :=
  (arguments.filter fun
    | .undefined => false
    | _ => true).mapM fun
    | .number n => return .number (n.clamp (-0x8000000000000000) 0x7FFFFFFFFFFFFFFF)
    | v => do return .text (Units.escaped (← toText v))

/-- A range of time. -/
def ofRange (name : String) (length : Nat) (f : World → List Range.Term → Bool) : Native :=
  ⟨name, length, fun w toText arguments => do return .bool (f w (← terms toText arguments))⟩

/-- An optional text as a value. -/
def optional : Option String → Value
  | some s => .ofString s
  | none => .null

end Native

namespace NativeTable

open Native

/-- The host functions of standard scripts. -/
def standard : NativeTable :=
  [ofText "dnsResolve" fun w host => optional (HostFunction.dnsResolve w host),
    ofText "dnsResolveEx" fun w host => .ofString (HostFunction.dnsResolveEx w host),
    ofText "isResolvable" fun w host => .bool (HostFunction.isResolvable w host),
    ofText "isResolvableEx" fun w host => .bool (HostFunction.isResolvableEx w host),
    ofWorld "myIpAddress" HostFunction.myIpAddress,
    ofWorld "myIpAddressEx" HostFunction.myIpAddressEx,
    ofTexts "isInNetEx" HostFunction.isInNetEx,
    ofTexts "shExpMatch" HostFunction.shExpMatch,
    ofRange "weekdayRange" 3 HostFunction.weekdayRange,
    ofRange "dateRange" 7 HostFunction.dateRange,
    ofRange "timeRange" 7 HostFunction.timeRange]

/-- The names of a table. -/
def names (table : NativeTable) : List String :=
  table.map (·.name)

/-- The character can begin a name. -/
def beginsName (c : Char) : Bool :=
  c.isAlpha || c == '_' || c == '$'

/-- The text is a name of the script's language, in ASCII. -/
def isName (name : String) : Bool :=
  match name.toList with
  | c :: cs => beginsName c && cs.all fun c => beginsName c || c.isDigit
  | [] => false

/-- The first name that keeps a table from being used, and why; `seen` are the names before. -/
def flaw? (seen : List String) : NativeTable → Option (String × String)
  | [] => none
  | native :: rest =>
    if !isName native.name then some (native.name, "not a valid identifier")
    else if seen.contains native.name then some (native.name, "registered twice")
    else flaw? (native.name :: seen) rest

/-- What is outside of a script: the functions of a table in a world. -/
def embedding (table : NativeTable) (w : World) (rounds : Nat) : Embedding :=
  { run := fun i call arguments =>
      match table[i]? with
      | some native => native.run w (Eval.toText call) arguments
      | none => return .undefined
    rounds }

/-- Give scripts the functions of a table from a place on. -/
def register (m : Machine) (index : Nat) : NativeTable → Outcome Machine
  | [] => .ok m
  | native :: rest =>
    match Eval.finish (Realm.addHost native.name native.length index) m with
    | (.ok _, m) => register m (index + 1) rest
    | (.error (.shown text), _) | (.error (.broken text), _) =>
      .error (.nativeRegistration native.name text)

end NativeTable

end ProxyAutoConfig
