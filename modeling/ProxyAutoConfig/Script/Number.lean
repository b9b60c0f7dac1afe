import ProxyAutoConfig.Decimal.Shortest
import ProxyAutoConfig.Text.Number

/-!
# Numbers of scripts

A script's number is a double-precision float. Integers of at most fifty-three bits, which is
what indices, lengths and bit patterns are, are kept as integers: on them the operations are
those of the integers. All other numbers are floats: fractions, larger integers, the negative
zero, the infinities and what is no number.

Every operation gives an integer wherever the outcome is one (`ofInt`, `ofFloat`), so a number
is kept in one way only.
-/

namespace ProxyAutoConfig.Script

open ProxyAutoConfig.Decimal ProxyAutoConfig.Text

/-- A number. -/
inductive Number where
  | int (n : Int)
  | float (x : Float)
  deriving Inhabited

namespace Number

/-- The greatest magnitude that is kept as an integer. -/
def bound : Nat := 0x20000000000000

/-- No number. -/
def nan : Number := float (0.0 / 0.0)

/-- Positive infinity. -/
def infinity : Number := float (1.0 / 0.0)

/-- Negative zero. -/
def negativeZero : Number := float (-0.0)

/-- An integer, rounded where it is too large. -/
def ofInt (n : Int) : Number :=
  if n.natAbs ≤ bound then int n else float (Float.ofInt n)

/-- A natural number. -/
def ofNat (n : Nat) : Number :=
  ofInt n

/-- A float; an integer where it is one. -/
def ofFloat (x : Float) : Number :=
  match BinaryFraction.ofFloat? x with
  | some d =>
    if d.mantissa = 0 then (if d.negative then float x else int 0)
    else if d.isInteger && d.truncate.natAbs ≤ bound then int d.truncate
    else float x
  | none => float x

/-- The number as a float. -/
def toFloat : Number → Float
  | int n => Float.ofInt n
  | float x => x

/-- It is no number. -/
def isNaN : Number → Bool
  | int _ => false
  | float x => x.isNaN

/-- It is the negative zero. -/
def isNegativeZero : Number → Bool
  | int _ => false
  | float x => x == 0.0

/-- It counts as false: zero of either sign, or no number. -/
def isFalse : Number → Bool
  | int n => n == 0
  | float x => x.isNaN || x == 0.0

/-- The number without its fraction; zero where it has no integer part, and `none` for the
infinities. -/
def truncate? : Number → Option Int
  | int n => some n
  | float x =>
    match BinaryFraction.ofFloat? x with
    | some d => some d.truncate
    | none => if x.isNaN then some 0 else none

/-- The integer part held within bounds. -/
def clamp (low high : Int) (x : Number) : Int :=
  match truncate? x with
  | some n => max low (min high n)
  | none => if x.toFloat < 0.0 then low else high

/-! ## Arithmetic -/

def neg : Number → Number
  | int n => if n = 0 then negativeZero else int (-n)
  | float x => ofFloat (-x)

def add : Number → Number → Number
  | int a, int b => ofInt (a + b)
  | a, b => ofFloat (a.toFloat + b.toFloat)

def sub : Number → Number → Number
  | int a, int b => ofInt (a - b)
  | a, b => ofFloat (a.toFloat - b.toFloat)

/-- The product; a zero that a negative factor makes is negative. -/
def mul : Number → Number → Number
  | int a, int b => if a * b = 0 ∧ (a < 0 ∨ b < 0) then negativeZero else ofInt (a * b)
  | a, b => ofFloat (a.toFloat * b.toFloat)

def div : Number → Number → Number
  | int a, int b =>
    if b ≠ 0 ∧ a ≠ 0 ∧ b ∣ a then int (a.tdiv b)
    else ofFloat (Float.ofInt a / Float.ofInt b)
  | a, b => ofFloat (a.toFloat / b.toFloat)

/-- The remainder of floats: with the dividend's sign, and exact. -/
def floatRem (x y : Float) : Float :=
  match BinaryFraction.ofFloat? x, BinaryFraction.ofFloat? y with
  | some d, some e => if e.mantissa = 0 then 0.0 / 0.0 else (d.remainder e).toFloat
  | some _, none => if y.isNaN then y else x
  | none, _ => 0.0 / 0.0

/-- The remainder, with the dividend's sign. -/
def rem : Number → Number → Number
  | int a, int b =>
    if b = 0 then nan
    else if a.tmod b = 0 ∧ a < 0 then negativeZero
    else int (a.tmod b)
  | a, b => ofFloat (floatRem a.toFloat b.toFloat)

/-- The power; integers with a small outcome are exact. -/
def pow : Number → Number → Number
  | int a, int b =>
    if 0 ≤ b ∧ b ≤ 53 ∧ (Int.pow a b.toNat).natAbs ≤ bound then int (Int.pow a b.toNat)
    else ofFloat (Float.pow (Float.ofInt a) (Float.ofInt b))
  | a, b => if b.isNaN then nan else ofFloat (Float.pow a.toFloat b.toFloat)

/-! ## Order -/

/-- The same number; the zeros are equal, and what is no number equals nothing. -/
def equal : Number → Number → Bool
  | int a, int b => a == b
  | a, b => a.toFloat == b.toFloat

/-- Less than. -/
def less : Number → Number → Bool
  | int a, int b => a < b
  | a, b => a.toFloat < b.toFloat

/-! ## Bits -/

/-- The number modulo two to the thirty-two. -/
def toBits (x : Number) : BitVec 32 :=
  match truncate? x with
  | some n => BitVec.ofInt 32 n
  | none => 0

/-- Bits as a number with a sign. -/
def ofBits (b : BitVec 32) : Number :=
  int b.toInt

/-- An operation on bits. -/
def bitwise (op : BitVec 32 → BitVec 32 → BitVec 32) (a b : Number) : Number :=
  ofBits (op a.toBits b.toBits)

/-- The distance of a shift. -/
def shiftCount (b : Number) : Nat :=
  b.toBits.toNat % 32

def shiftLeft (a b : Number) : Number :=
  ofBits (a.toBits <<< shiftCount b)

/-- Shift to the right and keep the sign. -/
def shiftRight (a b : Number) : Number :=
  ofBits (a.toBits.sshiftRight (shiftCount b))

/-- Shift to the right and fill with zeros. -/
def shiftRightZero (a b : Number) : Number :=
  int (a.toBits >>> shiftCount b).toNat

/-- Every bit turned over. -/
def complement (a : Number) : Number :=
  ofBits (~~~ a.toBits)

/-! ## Text -/

/-- A numeral without zeros at its end. -/
def strip (fuel : Nat) (d : Numeral) : Numeral :=
  match fuel with
  | 0 => d
  | fuel + 1 => if d.digits % 10 = 0 then strip fuel ⟨d.digits / 10, d.exponent + 1⟩ else d

/-- Digits and a point: positional from `1e-6` to below `1e21`, else with an exponent. -/
def layout (d : Numeral) : List Char :=
  let digits := decimal d.digits
  let count : Int := digits.length
  let point := count + d.exponent
  if 0 ≤ d.exponent ∧ point ≤ 21 then digits ++ List.replicate d.exponent.toNat '0'
  else if 0 < point ∧ point ≤ 21 then
    digits.take point.toNat ++ '.' :: digits.drop point.toNat
  else if -6 < point ∧ point ≤ 0 then
    '0' :: '.' :: List.replicate (-point).toNat '0' ++ digits
  else
    let e := point - 1
    let fraction := if digits.length = 1 then [] else '.' :: digits.drop 1
    digits.take 1 ++ fraction ++ 'e' :: (if e < 0 then '-' else '+') :: decimal e.natAbs

/-- A float as text. -/
def floatText (x : Float) : List Char :=
  match BinaryFraction.ofFloat? x with
  | some d =>
    if d.mantissa = 0 then ['0']
    else (if d.negative then ['-'] else []) ++ layout (strip 17 (shortest d))
  | none =>
    if x.isNaN then ['N', 'a', 'N']
    else (if x < 0.0 then ['-'] else []) ++ "Infinity".toList

/-- A number as text. -/
def text : Number → List Char
  | int n => (if n < 0 then ['-'] else []) ++ decimal n.natAbs
  | float x => floatText x

/-- The number `digits * 10 ^ exponent`. -/
def ofDecimal (digits : Nat) (exponent : Int) : Number :=
  if digits = 0 then int 0
  else
    let top := ((decimal digits).length : Int) + exponent
    if 400 < top then infinity
    else if top < -400 then int 0
    else if exponent = 0 then
      if digits ≤ bound then int digits else ofFloat (Float.ofScientific digits false 0)
    else ofFloat (Float.ofScientific digits (exponent < 0) exponent.natAbs)

/-! ## Reading -/

/-- The digits in front and what follows them. -/
def takeDigits (cs : List Char) : List Char × List Char :=
  (cs.takeWhile Char.isDigit, cs.dropWhile Char.isDigit)

/-- A value of digits; nothing is zero. -/
def digitsValue (cs : List Char) : Nat :=
  (numberFrom? 10 0 cs).getD 0

/-- The exponent behind a decimal and what follows it; without digits there is no exponent. -/
def readExponent (cs : List Char) : Int × List Char :=
  match cs with
  | e :: rest =>
    if e == 'e' || e == 'E' then
      let (negative, rest) := match rest with
        | '-' :: rest => (true, rest)
        | '+' :: rest => (false, rest)
        | _ => (false, rest)
      match takeDigits rest with
      | ([], _) => (0, cs)
      | (digits, rest) =>
        let n : Int := digitsValue (digits.take 9)
        (if negative then -n else n, rest)
    else (0, cs)
  | [] => (0, cs)

/-- Read an unsigned decimal, perhaps with a fraction and an exponent, and what follows it. -/
def readDecimal? (cs : List Char) : Option (Number × List Char) :=
  let (whole, rest) := takeDigits cs
  let (fraction, rest) := match rest with
    | '.' :: after => takeDigits after
    | _ => ([], rest)
  if whole.isEmpty && fraction.isEmpty then none
  else
    let (exponent, rest) := readExponent rest
    some (ofDecimal (digitsValue (whole ++ fraction)) (exponent - fraction.length), rest)

/-- Digits of another base behind their mark. -/
def readMarked? (cs : List Char) : Option Number :=
  match cs with
  | '0' :: m :: digits =>
    let base :=
      if m == 'x' || m == 'X' then 16 else if m == 'o' || m == 'O' then 8
      else if m == 'b' || m == 'B' then 2 else 0
    (number? base digits).map fun n => if n ≤ bound then int n else ofDecimal n 0
  | _ => none

/-- Blanks and line ends as scripts know them. -/
def isScriptBlank (c : Char) : Bool :=
  let n := c.toNat
  (9 ≤ n && n ≤ 13) || n == 0x20 || n == 0xA0 || n == 0x1680 || (0x2000 ≤ n && n ≤ 0x200A) ||
    n == 0x2028 || n == 0x2029 || n == 0x202F || n == 0x205F || n == 0x3000 || n == 0xFEFF

/-- A text without blanks at its ends. -/
def trimBlanks (cs : List Char) : List Char :=
  ((cs.dropWhile isScriptBlank).reverse.dropWhile isScriptBlank).reverse

/-- The number that a text without sign spells as a whole. -/
def ofUnsigned? (cs : List Char) : Option Number :=
  if cs = "Infinity".toList then some infinity
  else
    match readDecimal? cs with
    | some (n, []) => some n
    | _ => none

/-- The number that a text spells, blanks around it aside; a blank text spells zero. -/
def ofText (cs : List Char) : Number :=
  match trimBlanks cs with
  | [] => int 0
  | '+' :: rest => (ofUnsigned? rest).getD nan
  | '-' :: rest => ((ofUnsigned? rest).map neg).getD nan
  | rest => ((readMarked? rest).or (ofUnsigned? rest)).getD nan

end Number

end ProxyAutoConfig.Script
