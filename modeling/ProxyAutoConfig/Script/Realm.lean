import ProxyAutoConfig.Script.Calls

/-!
# The world of a script

The objects that every script finds: the makers with their methods, the functions of numbers,
and the global object that holds them all. Host functions are added by name, in the order of
their table; a name whose property cannot be changed cannot be given to a host function.

Of what the language furnishes a script finds the families in `Script.Builtin` and nothing else. There
is no `Date`, `JSON`, `Map`, `Set`, `Symbol`, `Promise` or `eval`, and of `Object`, `Math` and the parents
only the members that are listed: another name has no declaration, another member is undefined.
-/

namespace ProxyAutoConfig.Script

open ProxyAutoConfig.Text

namespace Realm

/-- The known objects, in the order of their numbers. -/
def known : List Object :=
  [⟨.plain, some Well.object, []⟩, ⟨.plain, none, []⟩,
    ⟨.function (.builtin (.make .function)), some Well.object, []⟩,
    ⟨.text [], some Well.object, []⟩, ⟨.number (.int 0), some Well.object, []⟩,
    ⟨.bool false, some Well.object, []⟩, ⟨.array #[], some Well.object, []⟩,
    ⟨.plain, some Well.object, []⟩] ++
  ErrorKind.all.map fun kind =>
    ⟨.plain, some (if kind = .error then Well.object else Well.error .error), []⟩

/-- The heap with nothing but the known objects, and the outermost scope. -/
def bare : Machine :=
  ⟨known.toArray, #[⟨[], none⟩], 0, 0⟩

/-- Give an object a function that every script has. -/
def addFunction (owner : Ref) (name : String) (b : Builtin) (length : Nat) : Eval Ref := do
  let r ← Eval.newFunction (.builtin b) (Units.ofString name) length
  Eval.change owner (·.define (Key.ofString name) (Property.hidden (.object r)))
  return r

/-- Give an object a family of functions. -/
def addAll {α : Type} (owner : Ref) (wrap : α → Builtin) (family : List (String × α × Nat)) :
    Eval Unit :=
  family.forM fun (name, m, length) => do
    let _ ← addFunction owner name (wrap m) length

/-- Add a maker and the parent of what it makes. -/
def addMaker (name : String) (m : Maker) (parent : Ref) (length : Nat) : Eval Ref := do
  let r ← addFunction Well.global name (.make m) length
  Eval.change r (·.define prototypeKey (Property.fixed (.object parent)))
  Eval.change parent (·.define constructorKey (Property.hidden (.object r)))
  return r

/-- Add a maker of errors. -/
def addError (kind : ErrorKind) : Eval Unit := do
  let parent := Well.error kind
  let _ ← addMaker kind.name (.error kind) parent 1
  Eval.change parent (·.define nameKey (Property.hidden (.ofString kind.name)))
  Eval.change parent (·.define messageKey (Property.hidden (.text [])))

/-- Add everything that every script has. -/
def furnish : Eval Unit := do
  let object ← addMaker "Object" .object Well.object 1
  let _ ← addFunction object "keys" (.maker .keys) 1
  addAll Well.object .object [("toString", .toText, 0), ("valueOf", .toValue, 0),
    ("hasOwnProperty", .hasOwn, 1)]
  let _ ← addMaker "Function" .function Well.function 1
  addAll Well.function .function FunctionMethod.all
  let text ← addMaker "String" .text Well.text 1
  let _ ← addFunction text "fromCharCode" (.maker .fromCodes) 1
  addAll Well.text .text TextMethod.all
  let _ ← addMaker "Number" .number Well.number 1
  addAll Well.number .object [("toString", .numberToText, 1), ("valueOf", .numberToValue, 0)]
  let _ ← addMaker "Boolean" .bool Well.bool 1
  addAll Well.bool .object [("toString", .boolToText, 0), ("valueOf", .boolToValue, 0)]
  let array ← addMaker "Array" .array Well.array 1
  let _ ← addFunction array "isArray" (.maker .isArray) 1
  addAll Well.array .array ArrayMethod.all
  let _ ← addMaker "RegExp" .pattern Well.pattern 2
  addAll Well.pattern .pattern PatternMethod.all
  ErrorKind.all.forM addError
  let _ ← addFunction (Well.error .error) "toString" (.object .errorToText) 0
  addAll Well.global .number NumberFunction.globals
  let math ← Eval.newObject
  addAll math .number NumberFunction.members
  Eval.change Well.global fun o =>
    [("Math", Property.hidden (.object math)),
      ("globalThis", Property.hidden (.object Well.global)),
      ("undefined", Property.fixed .undefined), ("NaN", Property.fixed (.number .nan)),
      ("Infinity", Property.fixed (.number .infinity))].foldl
      (fun o (name, p) => o.define (Key.ofString name) p) o

/-- The heap with everything that every script has. -/
def initial : Machine :=
  match furnish bare with
  | .ok _ m | .error _ m => m

/-- Give scripts the host function at a place of its table. -/
def addHost (name : String) (length index : Nat) : Eval Unit := do
  let k := Key.ofUnits (Units.ofString name)
  match (← Eval.object Well.global).own? k with
  | some ⟨_, _, _, false⟩ => Eval.fail .typeError "a fixed property cannot be redefined"
  | _ =>
    let r ← Eval.newFunction (.host index) (Units.ofString name) length
    Eval.change Well.global (·.define k (Property.hidden (.object r)))

end Realm

end ProxyAutoConfig.Script
