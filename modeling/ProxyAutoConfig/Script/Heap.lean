import ProxyAutoConfig.Script.Value

/-!
# Objects in the heap

Making, reading and changing objects. A property that an object does not have itself is looked
for in its parent, and so on. The items and the length of an array, and the units and the length
of a text, are properties too.

The first objects of a heap are known by number (`Well`): the global object and the parents of
all other objects.
-/

namespace ProxyAutoConfig.Script

open ProxyAutoConfig.Text

/-! ## Known objects -/

namespace Well

def global : Ref := 0
def object : Ref := 1
def function : Ref := 2
def text : Ref := 3
def number : Ref := 4
def bool : Ref := 5
def array : Ref := 6
def pattern : Ref := 7

/-- The parent of the errors of a kind. -/
def error (kind : ErrorKind) : Ref :=
  8 + ErrorKind.all.idxOf kind

/-- The number of known objects. -/
def count : Nat := 15

end Well

/-- The key of lengths. -/
def lengthKey : Key := Key.ofString "length"

/-- The key of names. -/
def nameKey : Key := Key.ofString "name"

/-- The key of messages. -/
def messageKey : Key := Key.ofString "message"

/-- The key of parents of what a function makes. -/
def prototypeKey : Key := Key.ofString "prototype"

/-- The key of the function that made an object. -/
def constructorKey : Key := Key.ofString "constructor"

/-! ## One object -/

namespace Object

/-- The function that an object is. -/
def code? (o : Object) : Option Code :=
  match o.kind with
  | .function code => some code
  | _ => none

/-- A property that the object has itself. -/
def own? (o : Object) (k : Key) : Option Property :=
  match o.kind, k with
  | .array items, .index n =>
    match items[n]? with
    | some (some v) => some (Property.open v)
    | _ => o.properties.lookup k
  | .array items, .name _ =>
    if k = lengthKey then some ⟨.ofNat items.size, true, false, false⟩ else o.properties.lookup k
  | .text u, .index n =>
    match u[n]? with
    | some x => some ⟨.text [x], false, true, false⟩
    | none => o.properties.lookup k
  | .text u, .name _ =>
    if k = lengthKey then some (Property.fixed (.ofNat u.length)) else o.properties.lookup k
  | _, _ => o.properties.lookup k

/-- A list with a property under a key, in its old place or at the end. -/
def insert (k : Key) (p : Property) : List (Key × Property) → List (Key × Property)
  | [] => [(k, p)]
  | (k', p') :: rest => if k' = k then (k, p) :: rest else (k', p') :: insert k p rest

/-- The object with a property of its own. -/
def define (o : Object) (k : Key) (p : Property) : Object :=
  { o with properties := insert k p o.properties }

/-- Items with one more in a place, which may lie behind the last one. -/
def setItem (items : Array (Option Value)) (n : Nat) (v : Value) : Array (Option Value) :=
  if n < items.size then items.setIfInBounds n (some v)
  else (items ++ Array.replicate (n - items.size) none).push (some v)

/-- Items cut or filled up to a length. -/
def resize (items : Array (Option Value)) (n : Nat) : Array (Option Value) :=
  if n ≤ items.size then items.extract 0 n else items ++ Array.replicate (n - items.size) none

/-- The farthest place at which an array keeps its items one by one. -/
def itemLimit : Nat := 0x1000000

/-- The object with a value in a property of its own. -/
def put (o : Object) (k : Key) (v : Value) : Object :=
  match o.kind, k with
  | .array items, .index n =>
    if n < itemLimit then { o with kind := .array (setItem items n v) }
    else o.define k (Property.open v)
  | .array items, .name _ =>
    if k = lengthKey then
      match v with
      | .number n =>
        match n.truncate? with
        | some len =>
          if len.toNat < itemLimit then { o with kind := .array (resize items len.toNat) } else o
        | none => o
      | _ => o
    else
      o.define k (match o.properties.lookup k with
        | some p => { p with value := v }
        | none => Property.open v)
  | _, _ =>
    o.define k (match o.properties.lookup k with
      | some p => { p with value := v }
      | none => Property.open v)

/-- The object without a property. -/
def remove (o : Object) (k : Key) : Object :=
  match o.kind, k with
  | .array items, .index n => { o with
      kind := .array (if n < items.size then items.setIfInBounds n none else items)
      properties := o.properties.filter (·.1 ≠ k) }
  | _, _ => { o with properties := o.properties.filter (·.1 ≠ k) }

/-- The keys of an object in the order in which they are listed: places first, then names. -/
def keys (o : Object) : List Key :=
  let places := match o.kind with
    | .array items =>
      (List.range items.size).filterMap fun i =>
        match items[i]? with
        | some (some _) => some (Key.index i)
        | _ => none
    | .text u => (List.range u.length).map Key.index
    | _ => []
  let others := o.properties.filter (·.2.enumerable) |>.map (·.1)
  let indices := others.filterMap fun
    | .index n => some n
    | .name _ => none
  places ++ (indices.mergeSort (· ≤ ·)).map Key.index ++
    others.filter fun
      | .index _ => false
      | .name _ => true

end Object

/-! ## The heap -/

namespace Eval

/-- Make an object. -/
def allocate (o : Object) : Eval Ref := fun m =>
  .ok m.objects.size { m with objects := m.objects.push o }

/-- The object that a reference names. -/
def object (r : Ref) : Eval Object := fun m =>
  .ok (m.objects[r]?.getD default) m

/-- Change an object. -/
def change (r : Ref) (f : Object → Object) : Eval Unit := fun m =>
  .ok () { m with objects := m.objects.modify r f }

/-- Make a plain object. -/
def newObject : Eval Ref :=
  allocate ⟨.plain, some Well.object, []⟩

/-- Make an array. -/
def newArray (items : List Value) : Eval Value := do
  return .object (← allocate ⟨.array (items.map some).toArray, some Well.array, []⟩)

/-- Make an error. -/
def newError (kind : ErrorKind) (message : Units) : Eval Value := do
  return .object (← allocate ⟨.error, some (Well.error kind),
    [(messageKey, Property.hidden (.text message))]⟩)

/-- Halt with an error of the engine. -/
def fail {α : Type} (kind : ErrorKind) (message : String) : Eval α := do
  throwValue (← newError kind (Units.ofString message))

/-- A property of an object or of one of its parents, as far as `fuel` reaches. -/
def findProperty (objects : Array Object) (k : Key) : Nat → Ref → Option Property
  | 0, _ => none
  | fuel + 1, r =>
    match objects[r]? with
    | none => none
    | some o =>
      match o.own? k with
      | some p => some p
      | none =>
        match o.parent with
        | some parent => findProperty objects k fuel parent
        | none => none

/-- A property of an object or of one of its parents. -/
def property? (r : Ref) (k : Key) : Eval (Option Property) := fun m =>
  .ok (findProperty m.objects k (m.objects.size + 1) r) m

/-- The value of a property; undefined where there is none. -/
def get (r : Ref) (k : Key) : Eval Value := do
  match ← property? r k with
  | some p => return p.value
  | none => return .undefined

/-- Give a property a value; one that cannot be changed stays as it is. -/
def set (r : Ref) (k : Key) (v : Value) : Eval Unit := do
  match ← property? r k with
  | some p => if p.writable then change r (·.put k v) else return
  | none => change r (·.put k v)

/-- The parent of the members of a value that is no object. -/
def parentOf? : Value → Option Ref
  | .text _ => some Well.text
  | .number _ => some Well.number
  | .bool _ => some Well.bool
  | .object r => some r
  | .undefined | .null => none

/-- A member of a value. -/
def getMember (v : Value) (k : Key) : Eval Value :=
  match v with
  | .object r => get r k
  | .text u =>
    match k with
    | .index n =>
      match u[n]? with
      | some x => pure (.text [x])
      | none => get Well.text k
    | .name _ => if k = lengthKey then pure (.ofNat u.length) else get Well.text k
  | v =>
    match parentOf? v with
    | some r => get r k
    | none => fail .typeError "a missing value has no members"

/-- Give a member of a value a value; only objects keep one. -/
def setMember (v : Value) (k : Key) (x : Value) : Eval Unit :=
  match v with
  | .object r => set r k x
  | .undefined | .null => fail .typeError "a missing value has no members"
  | _ => pure ()

/-- Take a property away; tells whether it is gone. -/
def deleteMember (v : Value) (k : Key) : Eval Bool := do
  match v with
  | .object r =>
    match (← object r).own? k with
    | some p =>
      if p.configurable then
        change r (·.remove k)
        return true
      else return false
    | none => return true
  | .undefined | .null => fail .typeError "a missing value has no members"
  | _ => return true

/-- The function that a value is. -/
def code? (v : Value) : Eval (Option Code) := do
  match v with
  | .object r => return (← object r).code?
  | _ => return none

/-- Make a function with its name and the number of its parameters. -/
def newFunction (code : Code) (name : Units) (length : Nat) : Eval Ref :=
  allocate ⟨.function code, some Well.function,
    [(lengthKey, ⟨.ofNat length, false, false, true⟩),
      (nameKey, ⟨.text name, false, false, true⟩)]⟩

/-- An object for a value, as a function sees it as its `this`. -/
def box (v : Value) : Eval Value := do
  match v with
  | .undefined | .null => return .object Well.global
  | .bool b => return .object (← allocate ⟨.bool b, some Well.bool, []⟩)
  | .number n => return .object (← allocate ⟨.number n, some Well.number, []⟩)
  | .text u => return .object (← allocate ⟨.text u, some Well.text, []⟩)
  | .object r => return .object r

end Eval

end ProxyAutoConfig.Script
