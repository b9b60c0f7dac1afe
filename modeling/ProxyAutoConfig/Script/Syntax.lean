import ProxyAutoConfig.Script.Number
import ProxyAutoConfig.Script.Regex.Basic

/-!
# The syntax of scripts

Expressions and statements of the language in which configuration scripts are written. What can
be settled while reading is settled there: a declaration list is a list of single declarations,
a name on the left of an assignment is told apart from a member, and every function knows the
variables that are declared anywhere in it.
-/

namespace ProxyAutoConfig.Script

open ProxyAutoConfig.Text

/-- An operator on one value. -/
inductive UnaryOp where
  | plus | minus | not | complement | typeOf | discard
  deriving DecidableEq, Repr

/-- An operator on two values. -/
inductive BinaryOp where
  | add | sub | mul | div | rem | pow
  | equal | notEqual | same | notSame
  | less | lessEqual | greater | greaterEqual
  | bitAnd | bitOr | bitXor | shiftLeft | shiftRight | shiftRightZero
  | isIn | instanceOf
  deriving DecidableEq, Repr

/-- An operator that may do without its second operand. -/
inductive LogicalOp where
  | and | or | coalesce
  deriving DecidableEq, Repr

/-- How a name is declared. -/
inductive DeclarationKind where
  | var | let | const
  deriving DecidableEq, Repr

/-- What is known of a function besides its body. -/
structure FunctionInfo where
  name : Units
  parameters : List Units
  /-- The names that `var` declares anywhere in the body. -/
  hoisted : List Units
  /-- It shares `this` and `arguments` with its surroundings. -/
  arrow : Bool
  /-- Its name is known within it. -/
  ownName : Bool
  /-- Its body, or an arrow function in it, names `arguments`. -/
  usesArguments : Bool

mutual

/-- An expression. -/
inductive Expr where
  | undefined
  | null
  | bool (b : Bool)
  | number (n : Number)
  | text (u : Units)
  | pattern (p : Regex.Pattern)
  | name (x : Units)
  | thisValue
  | array (items : List Expr)
  /-- A missing item of an array. -/
  | hole
  | object (entries : List Entry)
  | function (f : Function)
  | unary (op : UnaryOp) (e : Expr)
  /-- The type of a name, which need not be declared. -/
  | typeOfName (x : Units)
  | delete (t : Target)
  /-- Add one, or take it away; the value is the old one or the new one. -/
  | update (increment front : Bool) (t : Target)
  | binary (op : BinaryOp) (a b : Expr)
  | logical (op : LogicalOp) (a b : Expr)
  | conditional (c a b : Expr)
  | sequence (a b : Expr)
  | assign (t : Target) (e : Expr)
  | assignBinary (op : BinaryOp) (t : Target) (e : Expr)
  | assignLogical (op : LogicalOp) (t : Target) (e : Expr)
  | member (object key : Expr)
  | call (f : Expr) (arguments : List Expr)
  | callMember (object key : Expr) (arguments : List Expr)
  | new (f : Expr) (arguments : List Expr)

/-- What can be assigned to. -/
inductive Target where
  | name (x : Units)
  | member (object key : Expr)

/-- An entry of an object. -/
inductive Entry where
  | mk (key : Units) (value : Expr)

/-- A function. -/
inductive Function where
  | mk (info : FunctionInfo) (body : List Stmt)

/-- A statement. -/
inductive Stmt where
  | empty
  | expr (e : Expr)
  /-- A declared name with its first value; `var` without a value is not a statement. -/
  | declare (kind : DeclarationKind) (x : Units) (value : Expr)
  | function (f : Function)
  /-- A class without members. -/
  | emptyClass (x : Units)
  | many (body : List Stmt)
  | block (body : List Stmt)
  | ifElse (c : Expr) (a b : Stmt)
  | whileLoop (c : Expr) (body : Stmt)
  | doLoop (body : Stmt) (c : Expr)
  /-- `fresh` are the names of which every round has its own. -/
  | forLoop (start : Stmt) (fresh : List Units) (c update : Expr) (body : Stmt)
  | switch (subject : Expr) (cases : List Case)
  | ret (e : Expr)
  | throw (e : Expr)
  /-- `parameter` is the name for what was thrown. -/
  | tryCatch (body : List Stmt) (parameter : Option Units) (handler : List Stmt)
  | tryFinally (body last : Stmt)
  | leave (label : Option Units)
  | next (label : Option Units)
  | labeled (label : Units) (body : Stmt)

/-- A case of a switch. -/
inductive Case where
  | test (e : Expr) (body : List Stmt)
  | default (body : List Stmt)

end

instance : Inhabited Expr := ⟨.undefined⟩
instance : Inhabited Stmt := ⟨.empty⟩

namespace Function

/-- What is known of a function besides its body. -/
def info : Function → FunctionInfo
  | mk i _ => i

/-- The statements of a function. -/
def body : Function → List Stmt
  | mk _ b => b

end Function

/-- The statements of a case. -/
def Case.statements : Case → List Stmt
  | .test _ body => body
  | .default body => body

namespace Stmt

/-- The names that a statement other than a list declares, and how. -/
def declaresOne : Stmt → List (DeclarationKind × Units)
  | declare kind x _ => [(kind, x)]
  | emptyClass x => [(.let, x)]
  | _ => []

/-- The names that a statement declares, and how; functions aside. -/
def declares : Stmt → List (DeclarationKind × Units)
  | many body => body.flatMap declaresOne
  | s => s.declaresOne

/-- The names that statements declare for their block alone, and how; functions aside. -/
def lexical (body : List Stmt) : List (DeclarationKind × Units) :=
  (body.flatMap declares).filter (·.1 ≠ .var)

/-- The functions that statements declare. -/
def functions (body : List Stmt) : List Function :=
  body.filterMap fun
    | function f => some f
    | _ => none

end Stmt

end ProxyAutoConfig.Script
