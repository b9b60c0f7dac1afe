import ProxyAutoConfig.Decimal.BinaryFraction

/-!
# Shortest decimals

The decimal that stands for a float: of all decimals that read back as the float, those with the
fewest digits, and of these the nearest one. A decimal reads back as a float when it lies within
half a unit of the float's last place; the end of the interval belongs to it if the float's
mantissa is even.

With a number of digits given, only two decimals come into question: the ones on either side of
the float.
-/

namespace ProxyAutoConfig.Decimal

/-- The number `digits * 10 ^ exponent`. -/
structure Numeral where
  digits : Nat
  exponent : Int
  deriving DecidableEq, Repr

namespace Shortest

/-- A float against a grid of decimals: the float is `numerator / denominator` steps of the grid,
and `unit / denominator` steps make one unit of its last place. -/
structure Grid where
  numerator : Nat
  denominator : Nat
  unit : Nat

/-- The grid of multiples of `10 ^ k`. -/
def grid (mantissa : Nat) (exponent k : Int) : Grid :=
  let unit := Nat.pow 2 exponent.toNat * Nat.pow 10 (-k).toNat
  ⟨mantissa * unit, Nat.pow 2 (-exponent).toNat * Nat.pow 10 k.toNat, unit⟩

/-- A number of steps lies within half a unit of the float; below a power of two, the units are
half as large. -/
def reads (g : Grid) (mantissa steps : Nat) : Bool :=
  let point := steps * g.denominator
  let even := mantissa % 2 == 0
  if g.numerator ≤ point then
    let twice := 2 * (point - g.numerator)
    twice < g.unit || (even && twice == g.unit)
  else
    let room := if mantissa == 0x10000000000000 then 1 else 2
    let fourfold := 4 * (g.numerator - point)
    fourfold < room * g.unit || (even && fourfold == room * g.unit)

/-- The nearer of two neighbours, of which one at least reads back; of two as near, the even one. -/
def choose (g : Grid) (mantissa : Nat) : Option Nat :=
  let low := g.numerator / g.denominator
  let rest := g.numerator % g.denominator
  match reads g mantissa low, reads g mantissa (low + 1) with
  | true, true =>
    if 2 * rest < g.denominator || (2 * rest == g.denominator && low % 2 == 0) then some low
    else some (low + 1)
  | true, false => some low
  | false, true => some (low + 1)
  | false, false => none

/-- The number of digits in front of the point; not positive for a number below one. -/
def magnitude (mantissa : Nat) (exponent : Int) : Int :=
  let g := grid mantissa exponent (-400)
  ((Nat.toDigits 10 (g.numerator / g.denominator)).length : Int) - 400

/-- Try `count` digits, then more, while `fuel` lasts. -/
def search (mantissa : Nat) (exponent top : Int) (count : Nat) : Nat → Numeral
  | 0 => ⟨0, 0⟩
  | fuel + 1 =>
    let k := top - count
    match choose (grid mantissa exponent k) mantissa with
    | some steps => ⟨steps, k⟩
    | none => search mantissa exponent top (count + 1) fuel

end Shortest

/-- The shortest decimal of a number that is not zero; seventeen digits always do. -/
def shortest (d : BinaryFraction) : Numeral :=
  Shortest.search d.mantissa d.exponent (Shortest.magnitude d.mantissa d.exponent) 1 17

end ProxyAutoConfig.Decimal
