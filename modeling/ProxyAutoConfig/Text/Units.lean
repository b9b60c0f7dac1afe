import ProxyAutoConfig.Text.Percent

/-!
# Text in sixteen-bit units

A script's text is a sequence of sixteen-bit units: a character above U+FFFF takes two of them,
a high surrogate and a low one. Any sequence is allowed, so a surrogate may stand alone; then it
spells no character, and `escaped` writes it as a backslash, `u` and four capital hexadecimal
digits.
-/

namespace ProxyAutoConfig.Text

/-- Text as a script sees it. -/
abbrev Units := List UInt16

namespace Units

/-- The units of one character. -/
def ofChar (c : Char) : Units :=
  let n := c.toNat
  if n < 0x10000 then [n.toUInt16]
  else [(0xD800 + (n - 0x10000) / 0x400).toUInt16, (0xDC00 + (n - 0x10000) % 0x400).toUInt16]

/-- The units of a text. -/
def ofChars (cs : List Char) : Units :=
  cs.flatMap ofChar

/-- The units of a string. -/
def ofString (s : String) : Units :=
  ofChars s.toList

/-- The first unit of a pair. -/
def isHigh (u : UInt16) : Bool :=
  0xD800 ≤ u && u ≤ 0xDBFF

/-- The second unit of a pair. -/
def isLow (u : UInt16) : Bool :=
  0xDC00 ≤ u && u ≤ 0xDFFF

/-- The character of a pair. -/
def pair (high low : UInt16) : Char :=
  Char.ofNat (0x10000 + (high.toNat - 0xD800) * 0x400 + (low.toNat - 0xDC00))

/-- What a sequence of units spells, unit by unit: characters, and surrogates that stand alone. -/
def scalars : Units → List (Char ⊕ UInt16)
  | [] => []
  | [u] => if isHigh u || isLow u then [.inr u] else [.inl (Char.ofNat u.toNat)]
  | u :: v :: rest =>
    if isHigh u && isLow v then .inl (pair u v) :: scalars rest
    else if isHigh u || isLow u then .inr u :: scalars (v :: rest)
    else .inl (Char.ofNat u.toNat) :: scalars (v :: rest)

/-- A lone surrogate in letters. -/
def escape (u : UInt16) : List Char :=
  let n := u.toNat
  ['\\', 'u', Percent.hexDigit (n / 0x1000), Percent.hexDigit (n / 0x100 % 0x10),
    Percent.hexDigit (n / 0x10 % 0x10), Percent.hexDigit (n % 0x10)]

/-- The characters that units spell, lone surrogates in letters. -/
def escaped (u : Units) : List Char :=
  (scalars u).flatMap fun
    | .inl c => [c]
    | .inr v => escape v

/-- The string that units spell, lone surrogates in letters. -/
def toEscapedString (u : Units) : String :=
  String.ofList (escaped u)

/-- Where `part` first stands in `text` at or after `start`. -/
def indexFrom? (part text : Units) (start : Nat) : Option Nat :=
  (List.range (text.length + 1 - start)).findSome? fun i =>
    if part.isPrefixOf (text.drop (start + i)) then some (start + i) else none

/-- Where `part` last stands in `text` at or before `limit`. -/
def lastIndexFrom? (part text : Units) (limit : Nat) : Option Nat :=
  ((List.range (min limit text.length + 1)).reverse).find? fun i =>
    part.isPrefixOf (text.drop i)

/-- The pieces of `text` between the places where `separator` stands, read from the front;
`skip` counts the units of a separator still to be passed over. An empty separator is not cut
at. -/
def splitFrom (separator : Units) (skip : Nat) : Units → List Units
  | [] => [[]]
  | u :: rest =>
    match skip with
    | k + 1 => splitFrom separator k rest
    | 0 =>
      if !separator.isEmpty && separator.isPrefixOf (u :: rest) then
        [] :: splitFrom separator (separator.length - 1) rest
      else (splitFrom separator 0 rest).modifyHead (u :: ·)

/-- The pieces of `text` between the places where `separator` stands; for an empty separator,
the units one by one. -/
def split (separator text : Units) : List Units :=
  if separator.isEmpty then text.map ([·]) else splitFrom separator 0 text

end Units

end ProxyAutoConfig.Text
