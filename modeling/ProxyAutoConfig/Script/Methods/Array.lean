import ProxyAutoConfig.Script.Methods.Text

/-!
# Methods of arrays

Methods that only read work on everything that has a length and places; those that change
something need an array.
-/

namespace ProxyAutoConfig.Script

open ProxyAutoConfig.Text

namespace Eval

/-- The items of an array. -/
def arrayItems? (v : Value) : Eval (Option (Ref × Array (Option Value))) := do
  match v with
  | .object r =>
    match (← object r).kind with
    | .array items => return some (r, items)
    | _ => return none
  | _ => return none

/-- The values at the places of anything with a length; none at a place without a value. -/
def placed (call : Caller) (v : Value) : Eval (List (Option Value)) := do
  match ← arrayItems? v with
  | some (_, items) => return items.toList
  | none =>
    let n ← toNumber call (← getMember v lengthKey)
    let length := (n.clamp 0 Object.itemLimit).toNat
    (List.range length).mapM fun i => do return some (← getMember v (.index i))

/-- Give an array other items. -/
def setItems (r : Ref) (items : List (Option Value)) : Eval Unit :=
  change r fun o => { o with kind := .array items.toArray }

/-- The values with their places, without places that have no value. -/
def present (items : List (Option Value)) : List (Nat × Value) :=
  items.zipIdx.filterMap fun (v, i) => v.map fun v => (i, v)

/-- The texts of items with a separator between them; a missing value has an empty text. -/
def joinItems (call : Caller) (separator : Units) (items : List (Option Value)) : Eval Units := do
  let texts ← items.mapM fun
    | some v => if v.isMissing then pure [] else toText call v
    | none => pure []
  return separator.intercalate texts

/-- Call a function on items with their places. -/
def callback (call : Caller) (f self array : Value) (item : Nat × Value) : Eval Value :=
  call (.apply f self [item.2, .ofNat item.1, array])

/-- The first item for which a function's value counts as `wish` is there. -/
def anyItem (call : Caller) (f self array : Value) (wish : Bool) : List (Nat × Value) → Eval Bool
  | [] => pure false
  | item :: rest => do
    if (← callback call f self array item).isTrue == wish then return true
    else anyItem call f self array wish rest

/-- The methods of arrays that change one. -/
def changeArray (m : ArrayMethod) (r : Ref) (items : List (Option Value))
    (arguments : List Value) : Eval Value := do
  match m with
  | .push =>
    arguments.forM fun v => change r fun o =>
      match o.kind with
      | .array a => { o with kind := .array (a.push (some v)) }
      | _ => o
    return .ofNat (items.length + arguments.length)
  | .pop =>
    setItems r items.dropLast
    return (items.getLast?.bind id).getD .undefined
  | .shift =>
    setItems r items.tail
    return (items.head?.bind id).getD .undefined
  | .unshift =>
    setItems r (arguments.map some ++ items)
    return .ofNat (items.length + arguments.length)
  | _ =>
    setItems r items.reverse
    return .object r

/-- The methods of arrays. -/
def arrayMethod (call : Caller) (m : ArrayMethod) (self : Value) (arguments : List Value) :
    Eval Value := do
  let first := argument arguments 0
  let second := argument arguments 1
  match m with
  | .push | .pop | .shift | .unshift | .reverse =>
    match ← arrayItems? self with
    | some (r, items) => changeArray m r items.toList arguments
    | none => fail .typeError "a method of arrays is called on something else"
  | .toText => return .text (← joinItems call (Units.ofString ",") (← placed call self))
  | .join =>
    let items ← placed call self
    let separator ← match first with
      | .undefined => pure (Units.ofString ",")
      | v => toText call v
    return .text (← joinItems call separator items)
  | .slice =>
    let items ← placed call self
    let a := place (← toNumber call first) items.length
    let b := place (← numberOr call second (.ofNat items.length)) items.length
    let made ← newArray []
    if let .object r := made then setItems r ((items.drop a).take (b - a))
    return made
  | .concat =>
    let parts ← (self :: arguments).mapM fun v => do
      match ← arrayItems? v with
      | some (_, items) => return items.toList
      | none => return [some v]
    let made ← newArray []
    if let .object r := made then setItems r parts.flatten
    return made
  | .indexOf =>
    let items ← placed call self
    let start := place (← toNumber call second) items.length
    return .number (match (present items).find? fun (i, v) => start ≤ i && v.same first with
      | some (i, _) => .ofNat i
      | none => .int (-1))
  | .forEach | .map | .filter | .some | .every =>
    let items ← placed call self
    if (← code? first).isNone then fail .typeError "a function is needed"
    match m with
    | .some => return .bool (← anyItem call first second self true (present items))
    | .every => return .bool !(← anyItem call first second self false (present items))
    | .filter =>
      let kept ← (present items).filterM fun item => do
        return (← callback call first second self item).isTrue
      newArray (kept.map (·.2))
    | .map =>
      let mapped ← items.zipIdx.mapM fun (v, i) => do
        match v with
        | some v => return some (← callback call first second self (i, v))
        | none => return none
      let made ← newArray []
      if let .object r := made then setItems r mapped
      return made
    | _ =>
      (present items).forM fun item => do let _ ← callback call first second self item
      return .undefined

end Eval

end ProxyAutoConfig.Script
