import ProxyAutoConfig.Script.Heap

/-!
# Names in scopes

What a name stands for is looked up from the scope at hand outwards; behind the outermost scope
stands the global object. A name that is assigned to without ever having been declared becomes a
property of the global object.
-/

namespace ProxyAutoConfig.Script

open ProxyAutoConfig.Text

/-- The outermost scope. -/
def globalScope : Nat := 0

namespace Scope

/-- A list of names in which one has another binding; a new name comes first. -/
def insert (x : Units) (b : Binding) : List (Units × Binding) → List (Units × Binding)
  | [] => [(x, b)]
  | (y, c) :: rest => if y = x then (x, b) :: rest else (y, c) :: insert x b rest

/-- The scope with a binding. -/
def bind (s : Scope) (x : Units) (b : Binding) : Scope :=
  { s with names := insert x b s.names }

/-- The innermost scope that knows a name, and its binding, as far as `fuel` reaches. -/
def find (scopes : Array Scope) (x : Units) : Nat → Nat → Option (Nat × Binding)
  | 0, _ => none
  | fuel + 1, s =>
    match scopes[s]? with
    | none => none
    | some scope =>
      match scope.names.lookup x with
      | some b => some (s, b)
      | none =>
        match scope.parent with
        | some parent => find scopes x fuel parent
        | none => none

end Scope

namespace Eval

/-- Make a scope. -/
def newScope (s : Scope) : Eval Nat := fun m =>
  .ok m.scopes.size { m with scopes := m.scopes.push s }

/-- The innermost scope that knows a name, and its binding. -/
def binding? (s : Nat) (x : Units) : Eval (Option (Nat × Binding)) := fun m =>
  .ok (Scope.find m.scopes x (m.scopes.size + 1) s) m

/-- Give a name a binding in a scope. -/
def bind (s : Nat) (x : Units) (b : Binding) : Eval Unit := fun m =>
  .ok () { m with scopes := m.scopes.modify s (·.bind x b) }

/-- The declaration of a name in this scope has run: it has a value from now on. -/
def start (s : Nat) (x : Units) (v : Value) : Eval Unit := fun m =>
  let fixity := match (m.scopes[s]?).bind (·.names.lookup x) with
    | some b => b.fixity
    | none => .free
  .ok () { m with scopes := m.scopes.modify s (·.bind x ⟨some v, fixity⟩) }

/-- Halt, for a name has been used before its declaration has run. -/
def tooEarly {α : Type} : Eval α :=
  fail .referenceError "a name is used before its declaration"

/-- What a name stands for, or none where it is not declared. -/
def lookup? (s : Nat) (x : Units) : Eval (Option Value) := do
  match ← binding? s x with
  | some (_, ⟨some v, _⟩) => return some v
  | some (_, ⟨none, _⟩) => tooEarly
  | none => return (← property? Well.global (Key.ofUnits x)).map (·.value)

/-- What a name stands for. -/
def lookup (s : Nat) (x : Units) : Eval Value := do
  match ← lookup? s x with
  | some v => return v
  | none => fail .referenceError "a name is not defined"

/-- Assign to a name. -/
def assign (s : Nat) (x : Units) (v : Value) : Eval Unit := do
  match ← binding? s x with
  | some (_, ⟨none, _⟩) => tooEarly
  | some (t, ⟨some _, .free⟩) => bind t x ⟨some v, .free⟩
  | some (_, ⟨some _, .constant⟩) => fail .typeError "a constant is assigned to"
  | some (_, ⟨some _, .ownName⟩) => return
  | none => set Well.global (Key.ofUnits x) v

/-- Take a name away; tells whether it is gone. Only a property of the global object can go. -/
def deleteName (s : Nat) (x : Units) : Eval Bool := do
  match ← binding? s x with
  | some _ => return false
  | none => deleteMember (.object Well.global) (Key.ofUnits x)

end Eval

end ProxyAutoConfig.Script
