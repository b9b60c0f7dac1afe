import ProxyAutoConfig.Net.Ipv6
import ProxyAutoConfig.Text.Blank

/-!
# Addresses and networks

An address of either family, and the networks that hold it. A network is written as an address
and a length, `10.0.0.0/8`: it holds the addresses of its family that agree with it in that many
leading bits.
-/

namespace ProxyAutoConfig.Net

open ProxyAutoConfig.Text

/-- An address of either family. -/
inductive Address where
  | v4 (bits : Ipv4)
  | v6 (bits : Ipv6)
  deriving DecidableEq, Repr

namespace Address

/-- Read an address in its strict form. -/
def parse? (cs : List Char) : Option Address :=
  match Ipv4.parse? cs with
  | some bits => some (v4 bits)
  | none => (Ipv6.parse? cs).map v6

/-- Write an address. -/
def text : Address → List Char
  | v4 bits => Ipv4.text bits
  | v6 bits => Ipv6.mixedText bits

/-- The address is an IPv4 one. -/
def isV4 : Address → Bool
  | v4 _ => true
  | v6 _ => false

end Address

/-- An address and the number of leading bits that count. -/
structure Network where
  base : Address
  length : Nat
  deriving DecidableEq, Repr

namespace Network

/-- Read a network: blanks around it do not count, and the first slash cuts it. -/
def parse? (cs : List Char) : Option Network :=
  match cutFirst? '/' (trim cs) with
  | some (base, length) =>
    match Address.parse? base, word? length with
    | some b, some n => some ⟨b, n⟩
    | _, _ => none
  | none => none

/-- Ones in the `length` leading bits and zeros in the others. -/
def mask (width length : Nat) : BitVec width :=
  BitVec.allOnes width <<< (width - length)

/-- Two addresses of `width` bits agree in their `length` leading bits. -/
def agree {width : Nat} (length : Nat) (a b : BitVec width) : Bool :=
  length ≤ width && (a &&& mask width length) == (b &&& mask width length)

/-- The network holds the address. -/
def holds (network : Network) (address : Address) : Bool :=
  match network.base, address with
  | .v4 base, .v4 bits => agree network.length bits base
  | .v6 base, .v6 bits => agree network.length bits base
  | _, _ => false

end Network

/-- The address lies in the network that a text writes. -/
def Address.liesIn (address : Address) (network : List Char) : Bool :=
  match Network.parse? network with
  | some n => n.holds address
  | none => false

end ProxyAutoConfig.Net
