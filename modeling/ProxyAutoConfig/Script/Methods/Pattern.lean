import ProxyAutoConfig.Script.Convert

/-!
# Methods of patterns

A pattern with the flag `g` or `y` remembers where its last match ended and goes on from there.
-/

namespace ProxyAutoConfig.Script

open ProxyAutoConfig.Text

/-- The key of the place at which a pattern goes on. -/
def lastIndexKey : Key := Key.ofString "lastIndex"

namespace Eval

/-- An argument; one that is not given is undefined. -/
def argument (arguments : List Value) (i : Nat) : Value :=
  arguments[i]?.getD .undefined

/-- The plain value that a value is, or that an object holds. -/
def heldValue (v : Value) : Eval Value := do
  match v with
  | .object r =>
    match (← object r).kind with
    | .text u => return .text u
    | .number n => return .number n
    | .bool b => return .bool b
    | _ => return v
  | v => return v

/-- Make a pattern object. -/
def newPattern (p : Regex.Pattern) : Eval Value := do
  return .object (← allocate ⟨.pattern p, some Well.pattern,
    [(lastIndexKey, ⟨.ofNat 0, true, false, false⟩)]⟩)

/-- The pattern that a value is. -/
def pattern? (v : Value) : Eval (Option (Ref × Regex.Pattern)) := do
  match v with
  | .object r =>
    match (← object r).kind with
    | .pattern p => return some (r, p)
    | _ => return none
  | _ => return none

/-- Match a pattern object against a text. -/
def matchPattern (call : Caller) (r : Ref) (p : Regex.Pattern) (u : Units) :
    Eval (Option Regex.Match) := do
  if p.global || p.sticky then
    let last ← toNumber call (← get r lastIndexKey)
    let found := p.find? u (last.clamp 0 9007199254740991).toNat
    set r lastIndexKey (.ofNat ((found.map (·.last)).getD 0))
    return found
  else return p.find? u 0

/-- The units between two places. -/
def between (u : Units) (first last : Nat) : Units :=
  (u.drop first).take (last - first)

/-- The captures of a match as values. -/
def captureValues (u : Units) (m : Regex.Match) : List Value :=
  m.captures.map fun
    | some (first, last) => .text (between u first last)
    | none => .undefined

/-- A match as an array: what matched, and the captures. -/
def matchArray (u : Units) (m : Regex.Match) : Eval Value := do
  let a ← newArray (.text (between u m.first m.last) :: captureValues u m)
  setMember a (Key.ofString "index") (.ofNat m.first)
  setMember a (Key.ofString "input") (.text u)
  return a

/-- The methods of patterns. -/
def patternMethod (call : Caller) (m : PatternMethod) (self : Value) (arguments : List Value) :
    Eval Value := do
  match ← pattern? self with
  | none => fail .typeError "a method of patterns is called on something else"
  | some (r, p) =>
    match m with
    | .toText =>
      return .text (Units.ofString "/" ++ p.source ++ Units.ofString "/" ++ p.flags)
    | .test =>
      let u ← toText call (argument arguments 0)
      return .bool (← matchPattern call r p u).isSome
    | .exec =>
      let u ← toText call (argument arguments 0)
      match ← matchPattern call r p u with
      | some found => matchArray u found
      | none => return .null

end Eval

end ProxyAutoConfig.Script
