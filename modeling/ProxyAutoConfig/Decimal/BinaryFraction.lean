/-!
# Binary fractions

A finite floating-point number is a natural number times a power of two, with a sign. Seen so, it
has an exact integer part and exact remainders.
-/

namespace ProxyAutoConfig.Decimal

/-- The number `mantissa * 2 ^ exponent`, or its negative. -/
structure BinaryFraction where
  negative : Bool
  mantissa : Nat
  exponent : Int
  deriving DecidableEq, Repr

namespace BinaryFraction

/-- The exact value of a float; none for infinities and what is no number. -/
def ofFloat? (x : Float) : Option BinaryFraction :=
  let bits := x.toBits.toNat
  let field : Nat := bits / 0x10000000000000 % 0x800
  let fraction : Nat := bits % 0x10000000000000
  let negative := bits / 0x8000000000000000 == 1
  if field = 2047 then none
  else if field = 0 then some ⟨negative, fraction, -1074⟩
  else some ⟨negative, fraction + 0x10000000000000, (field : Int) - 1075⟩

/-- A magnitude with the sign of the number. -/
def signed (d : BinaryFraction) (n : Nat) : Int :=
  if d.negative then -(n : Int) else n

/-- The number without its fraction. -/
def truncate (d : BinaryFraction) : Int :=
  d.signed (if 0 ≤ d.exponent then d.mantissa * Nat.pow 2 d.exponent.toNat
    else d.mantissa / Nat.pow 2 (-d.exponent).toNat)

/-- The number is an integer. -/
def isInteger (d : BinaryFraction) : Bool :=
  0 ≤ d.exponent || d.mantissa % Nat.pow 2 (-d.exponent).toNat == 0

/-- What is left of the number when a multiple of `e` is taken away, with the number's sign. -/
def remainder (d e : BinaryFraction) : BinaryFraction :=
  let low := min d.exponent e.exponent
  let a := d.mantissa * Nat.pow 2 (d.exponent - low).toNat
  let b := e.mantissa * Nat.pow 2 (e.exponent - low).toNat
  ⟨d.negative, a % b, low⟩

/-- The nearest float of a number whose mantissa takes at most fifty-three bits once even factors
are cleared from it. -/
def toFloat (d : BinaryFraction) : Float :=
  let x :=
    if 0 ≤ d.exponent then Float.ofNat (d.mantissa * Nat.pow 2 d.exponent.toNat)
    else (Float.ofNat d.mantissa).scaleB d.exponent
  if d.negative then -x else x

end BinaryFraction

end ProxyAutoConfig.Decimal
