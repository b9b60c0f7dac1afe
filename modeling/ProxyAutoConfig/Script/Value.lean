import ProxyAutoConfig.Script.Builtin
import ProxyAutoConfig.Script.Syntax

/-!
# Values and the heap

What a script computes with. Objects and scopes live in a heap and are referred to by number, so
that two references to one object see each other's changes. A scope maps names to values; a name
without a value yet is one that is used before its declaration has run.

A computation either returns or halts. It halts with a thrown value, which a script can catch, or
with one of two things that it cannot: a limit that was exceeded, or a host function that broke
down. A halted computation leaves the heap as it was at that moment.
-/

namespace ProxyAutoConfig.Script

open ProxyAutoConfig.Text

/-- A reference to an object. -/
abbrev Ref := Nat

/-- A value. -/
inductive Value where
  | undefined
  | null
  | bool (b : Bool)
  | number (n : Number)
  | text (u : Units)
  | object (r : Ref)
  deriving Inhabited

namespace Value

/-- A text value. -/
def ofString (s : String) : Value :=
  text (Units.ofString s)

/-- A whole number. -/
def ofNat (n : Nat) : Value :=
  number (Number.ofNat n)

/-- Undefined or null. -/
def isMissing : Value → Bool
  | undefined | null => true
  | _ => false

/-- The value counts as true. -/
def isTrue : Value → Bool
  | undefined | null => false
  | bool b => b
  | number n => !n.isFalse
  | text u => !u.isEmpty
  | object _ => true

end Value

/-- What a property is found under: a place in a sequence, or a name. -/
inductive Key where
  | index (n : Nat)
  | name (u : Units)
  deriving DecidableEq

namespace Key

/-- A key by its name. -/
def ofString (s : String) : Key :=
  name (Units.ofString s)

/-- The key that a text is: a number in its shortest decimal form is a place. -/
def ofUnits (u : Units) : Key :=
  match decimal? (u.map fun x => Char.ofNat x.toNat) with
  | some n =>
    if n < 4294967295 ∧ Units.ofChars (decimal n) = u then index n else name u
  | none => name u

/-- A key as text. -/
def text : Key → Units
  | index n => Units.ofChars (decimal n)
  | name u => u

end Key

/-- A property of an object. -/
structure Property where
  value : Value
  writable : Bool
  enumerable : Bool
  configurable : Bool

/-- A property that scripts made. -/
def Property.open (v : Value) : Property :=
  ⟨v, true, true, true⟩

/-- A property that does not show up in a listing. -/
def Property.hidden (v : Value) : Property :=
  ⟨v, true, false, true⟩

/-- A property that cannot be changed. -/
def Property.fixed (v : Value) : Property :=
  ⟨v, false, false, false⟩

/-- What can be called. -/
inductive Code where
  /-- A function of the script, in the scope and with the `this` of its making. -/
  | script (f : Function) (scope : Nat) (self : Value)
  /-- A class without members. -/
  | emptyClass
  | builtin (b : Builtin)
  /-- The host function at this place of its table. -/
  | host (index : Nat)

/-- What an object is besides its properties. -/
inductive ObjectKind where
  | plain
  | array (items : Array (Option Value))
  | function (code : Code)
  | error
  | text (u : Units)
  | number (n : Number)
  | bool (b : Bool)
  | pattern (p : Regex.Pattern)

/-- An object. -/
structure Object where
  kind : ObjectKind
  parent : Option Ref
  properties : List (Key × Property)

instance : Inhabited Object := ⟨⟨.plain, none, []⟩⟩

/-- What an assignment to a name does. -/
inductive Fixity where
  /-- It changes what the name stands for. -/
  | free
  /-- It is an error. -/
  | constant
  /-- It does nothing: the name is that of the function around. -/
  | ownName
  deriving DecidableEq

/-- What a name stands for in a scope. -/
structure Binding where
  /-- None before the declaration has run. -/
  value : Option Value
  fixity : Fixity

/-- A scope within another one; the outermost scope has the global object behind it. -/
structure Scope where
  names : List (Units × Binding)
  parent : Option Nat

instance : Inhabited Scope := ⟨⟨[], none⟩⟩

/-- The heap, and how deep and how far the computation has gone. -/
structure Machine where
  objects : Array Object
  scopes : Array Scope
  /-- The calls of script functions that are under way. -/
  depth : Nat
  /-- The rounds of loops in the call under way. -/
  rounds : Nat

/-- Why a computation does not return. -/
inductive Halt where
  | thrown (v : Value)
  | limit
  | broken (message : String)

/-- A computation on the heap. -/
abbrev Eval := EStateM Halt Machine

/-- How a statement ended. -/
inductive Completion where
  | normal
  | returned (v : Value)
  | left (label : Option Units)
  | continued (label : Option Units)

/-- Something to be called, or to make an object with. -/
inductive Call where
  | apply (f self : Value) (arguments : List Value)
  | construct (f : Value) (arguments : List Value)

/-- How calls are carried out. -/
abbrev Caller := Call → Eval Value

namespace Eval

/-- Halt with a thrown value. -/
def throwValue {α : Type} (v : Value) : Eval α :=
  throw (.thrown v)

/-- Run a computation and keep what it throws; a limit or a breakdown goes on. -/
def capture {α : Type} (x : Eval α) : Eval (Except Value α) := fun m =>
  match x m with
  | .ok a m => .ok (.ok a) m
  | .error (.thrown v) m => .ok (.error v) m
  | .error h m => .error h m

end Eval

end ProxyAutoConfig.Script
