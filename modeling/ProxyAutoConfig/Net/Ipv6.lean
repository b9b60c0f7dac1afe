import ProxyAutoConfig.Net.Ipv4
import ProxyAutoConfig.Text.Cut

/-!
# IPv6 addresses

A hundred and twenty-eight bits, written as eight groups of sixteen in hexadecimal digits with
colons between them. One `::` stands for one or more groups of zeros, and the last two groups
may be written as an IPv4 address.

There are two ways to write an address. Both put `::` for the longest run of at least two zero
groups, the first one of several. `text` keeps to groups; `mixedText` writes the addresses that
stand for IPv4 ones with the dotted form at their end.
-/

namespace ProxyAutoConfig.Net

open ProxyAutoConfig.Text

/-- The bits of an IPv6 address. -/
abbrev Ipv6 := BitVec 128

namespace Ipv6

/-- The address with these groups, the most significant first. -/
def ofGroups (groups : List Nat) : Ipv6 :=
  BitVec.ofNat 128 (groups.foldl (fun n g => n * 0x10000 + g) 0)

/-- The eight groups, the most significant first. -/
def groups (bits : Ipv6) : List Nat :=
  (List.range 8).map fun i => bits.toNat / Nat.pow 0x10000 (7 - i) % 0x10000

/-! ## Reading -/

/-- One group: one to four hexadecimal digits. -/
def group? (cs : List Char) : Option Nat :=
  if 4 < cs.length then none else number? 16 cs

/-- The groups of the pieces between colons; `dotted` allows an IPv4 address at the end. -/
def readGroups (dotted : Bool) : List (List Char) → Option (List Nat)
  | [] => some []
  | [last] =>
    match group? last with
    | some g => some [g]
    | none =>
      if dotted then
        (Ipv4.parse? last).map fun bits => [bits.toNat / 0x10000, bits.toNat % 0x10000]
      else none
  | piece :: rest =>
    match group? piece, readGroups dotted rest with
    | some g, some gs => some (g :: gs)
    | _, _ => none

/-- The groups on one side of `::`; nothing stands for no group. -/
def readSide (dotted : Bool) (cs : List Char) : Option (List Nat) :=
  if cs.isEmpty then some [] else readGroups dotted (cs.splitOn ':')

/-- Read an address. -/
def parse? (cs : List Char) : Option Ipv6 :=
  match cut? [':', ':'] cs with
  | none =>
    match readSide true cs with
    | some gs => if gs.length = 8 then some (ofGroups gs) else none
    | none => none
  | some (front, back) =>
    match readSide false front, readSide true back with
    | some fs, some bs =>
      if fs.length + bs.length ≤ 7 then
        some (ofGroups (fs ++ List.replicate (8 - fs.length - bs.length) 0 ++ bs))
      else none
    | _, _ => none

/-! ## Writing -/

/-- The length of the run of zeros in front. -/
def zeroRun (groups : List Nat) : Nat :=
  (groups.takeWhile (· == 0)).length

/-- Where the longest run of zeros begins and how long it is, the first one of several. The
groups at hand begin at place `place`. -/
def longestRun (place : Nat) : List Nat → Nat × Nat
  | [] => (place, 0)
  | g :: gs =>
    let here := zeroRun (g :: gs)
    let later := longestRun (place + 1) gs
    if later.2 ≤ here then (place, here) else later

/-- A group in hexadecimal digits. -/
def groupText (g : Nat) : List Char :=
  Nat.toDigits 16 g

/-- Groups with colons between them. -/
def groupsText (gs : List Nat) : List Char :=
  [':'].intercalate (gs.map groupText)

/-- An address in groups. -/
def text (bits : Ipv6) : List Char :=
  let gs := groups bits
  let (place, length) := longestRun 0 gs
  if length < 2 then groupsText gs
  else groupsText (gs.take place) ++ [':', ':'] ++ groupsText (gs.drop (place + length))

/-- The IPv4 address that an IPv6 address stands for. -/
def embedded? (bits : Ipv6) : Option Ipv4 :=
  if bits.toNat / 0x100000000 = 0xFFFF then some (BitVec.ofNat 32 bits.toNat) else none

/-- An address in groups, or with the dotted form where it stands for an IPv4 address. -/
def mixedText (bits : Ipv6) : List Char :=
  match embedded? bits with
  | some low => [':', ':', 'f', 'f', 'f', 'f', ':'] ++ Ipv4.text low
  | none => text bits

end Ipv6

end ProxyAutoConfig.Net
