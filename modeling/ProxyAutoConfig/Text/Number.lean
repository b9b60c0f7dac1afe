import ProxyAutoConfig.Text.Percent

/-!
# Natural numbers in text

Digits only, in base eight, ten or sixteen; nothing in front of them and nothing between them.
A number may be of any size: bounds belong to whoever reads it.
-/

namespace ProxyAutoConfig.Text

/-- The value of a digit, where it is one in the base. -/
def digitIn? (base : Nat) (c : Char) : Option Nat :=
  match Percent.hexValue? c with
  | some n => if n < base then some n else none
  | none => none

/-- The number that digits spell behind those that make `done`. -/
def numberFrom? (base done : Nat) : List Char → Option Nat
  | [] => some done
  | c :: cs =>
    match digitIn? base c with
    | some d => numberFrom? base (done * base + d) cs
    | none => none

/-- The number that digits spell; there is at least one digit. -/
def number? (base : Nat) (cs : List Char) : Option Nat :=
  if cs.isEmpty then none else numberFrom? base 0 cs

/-- The number that decimal digits spell. -/
def decimal? (cs : List Char) : Option Nat :=
  number? 10 cs

/-- A number below two to the thirty-two: decimal digits, perhaps behind a plus sign. -/
def word? (cs : List Char) : Option Nat :=
  match decimal? (if cs.head? = some '+' then cs.drop 1 else cs) with
  | some n => if n < 0x100000000 then some n else none
  | none => none

/-- A number in decimal digits. -/
def decimal (n : Nat) : List Char :=
  Nat.toDigits 10 n

end ProxyAutoConfig.Text
