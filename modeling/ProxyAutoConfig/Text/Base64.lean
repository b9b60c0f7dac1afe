import ProxyAutoConfig.Text.Utf8

/-!
# Base64

The standard alphabet with padding: three bytes become four digits of six bits, and a last group
of one or two bytes is filled up with `=`. `decode` reads exactly that form back.
-/

namespace ProxyAutoConfig.Text.Base64

/-- The digit of a six-bit value: capitals, small letters, digits, `+` and `/`. -/
def digit (n : Nat) : Char :=
  if n < 26 then Char.ofNat ('A'.toNat + n)
  else if n < 52 then Char.ofNat ('a'.toNat + (n - 26))
  else if n < 62 then Char.ofNat ('0'.toNat + (n - 52))
  else if n = 62 then '+'
  else '/'

/-- The six-bit value of a digit. -/
def value? (c : Char) : Option Nat :=
  if 'A' ≤ c ∧ c ≤ 'Z' then some (c.toNat - 'A'.toNat)
  else if 'a' ≤ c ∧ c ≤ 'z' then some (c.toNat - 'a'.toNat + 26)
  else if '0' ≤ c ∧ c ≤ '9' then some (c.toNat - '0'.toNat + 52)
  else if c = '+' then some 62
  else if c = '/' then some 63
  else none

/-- The digits of a byte sequence. -/
def encode : List UInt8 → List Char
  | [] => []
  | [a] =>
    let n := a.toNat * 0x10
    [digit (n / 0x40), digit (n % 0x40), '=', '=']
  | [a, b] =>
    let n := (a.toNat * 0x100 + b.toNat) * 4
    [digit (n / 0x1000), digit (n / 0x40 % 0x40), digit (n % 0x40), '=']
  | a :: b :: c :: rest =>
    let n := (a.toNat * 0x100 + b.toNat) * 0x100 + c.toNat
    digit (n / 0x40000) :: digit (n / 0x1000 % 0x40) :: digit (n / 0x40 % 0x40) ::
      digit (n % 0x40) :: encode rest

/-- The bytes that digits stand for: groups of four digits, the last one perhaps padded, and no
bit set that no byte holds. -/
def decode : List Char → Option (List UInt8)
  | [] => some []
  | [p, q, '=', '='] => do
    let n := (← value? p) * 0x40 + (← value? q)
    if n % 0x10 = 0 then some [(n / 0x10).toUInt8] else none
  | [p, q, r, '='] => do
    let n := ((← value? p) * 0x40 + (← value? q)) * 0x40 + (← value? r)
    if n % 4 = 0 then some [(n / 0x400).toUInt8, (n / 4 % 0x100).toUInt8] else none
  | p :: q :: r :: s :: rest => do
    let n := (((← value? p) * 0x40 + (← value? q)) * 0x40 + (← value? r)) * 0x40 + (← value? s)
    let bytes ← decode rest
    some ((n / 0x10000).toUInt8 :: (n / 0x100 % 0x100).toUInt8 :: (n % 0x100).toUInt8 :: bytes)
  | _ => none

/-- The digits of a text's bytes. -/
def encodeText (cs : List Char) : List Char :=
  encode (Utf8.encode cs)

end ProxyAutoConfig.Text.Base64
