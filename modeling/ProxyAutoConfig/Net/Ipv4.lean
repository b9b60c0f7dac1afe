import ProxyAutoConfig.Text.Number

/-!
# IPv4 addresses

Thirty-two bits. The strict form is four decimal octets without leading zeros. Host names of
URLs are read more loosely: one to four numbers in decimal, octal (a leading `0`) or
hexadecimal (a leading `0x`), of which the last one fills all octets that are left, and a dot may
follow.
-/

namespace ProxyAutoConfig.Net

open ProxyAutoConfig.Text

/-- The bits of an IPv4 address. -/
abbrev Ipv4 := BitVec 32

namespace Ipv4

/-- The address with these octets. -/
def ofOctets (a b c d : Nat) : Ipv4 :=
  BitVec.ofNat 32 (((a * 0x100 + b) * 0x100 + c) * 0x100 + d)

/-- The four octets. -/
def octets (bits : Ipv4) : List Nat :=
  let n := bits.toNat
  [n / 0x1000000, n / 0x10000 % 0x100, n / 0x100 % 0x100, n % 0x100]

/-- The strict form. -/
def text (bits : Ipv4) : List Char :=
  ['.'].intercalate ((octets bits).map decimal)

/-! ## The strict form -/

/-- An octet in its only spelling. -/
def octet? (cs : List Char) : Option Nat :=
  if 1 < cs.length ∧ cs.head? = some '0' then none
  else if 3 < cs.length then none
  else
    match decimal? cs with
    | some n => if n ≤ 255 then some n else none
    | none => none

/-- Read the strict form. -/
def parse? (cs : List Char) : Option Ipv4 :=
  match (cs.splitOn '.').map octet? with
  | [some a, some b, some c, some d] => some (ofOctets a b c d)
  | _ => none

/-! ## Numeric host names -/

/-- A number of a numeric host name. -/
def hostNumber? (cs : List Char) : Option Nat :=
  match cs with
  | [] => none
  | '0' :: 'x' :: rest | '0' :: 'X' :: rest => numberFrom? 16 0 rest
  | '0' :: rest => numberFrom? 8 0 rest
  | cs => decimal? cs

/-- The parts of a host name between its dots; one dot at the end does not count. -/
def hostParts (name : List Char) : List (List Char) :=
  let parts := name.splitOn '.'
  if 1 < parts.length ∧ parts.getLast? = some [] then parts.dropLast else parts

/-- The last part of the host name is a number, so that the name can only be an address. -/
def endsInNumber (name : List Char) : Bool :=
  match (hostParts name).getLast? with
  | some last => (!last.isEmpty && last.all Char.isDigit) || (hostNumber? last).isSome
  | none => false

/-- Put octets in front of the number that fills the rest. -/
def joinNumbers : Nat → List Nat → Option Nat
  | room, [last] => if last < Nat.pow 0x100 room then some last else none
  | room + 1, octet :: rest =>
    match joinNumbers room rest with
    | some n => if octet ≤ 255 then some (octet * Nat.pow 0x100 room + n) else none
    | none => none
  | _, _ => none

/-- Read a numeric host name. -/
def parseHost? (name : List Char) : Option Ipv4 :=
  match (hostParts name).mapM hostNumber? with
  | some numbers => (joinNumbers 4 numbers).map (BitVec.ofNat 32)
  | none => none

end Ipv4

end ProxyAutoConfig.Net
