import ProxyAutoConfig.Native.Calendar
import ProxyAutoConfig.Net.Address

/-!
# The world that host functions see

The moment, the answers of the resolver and the machine's own addresses. Host functions depend
on nothing else, so a lookup in one world always has one outcome.
-/

namespace ProxyAutoConfig

open ProxyAutoConfig.Net

/-- What host functions can see. -/
structure World where
  /-- The moment, in seconds since the start of 1970. -/
  now : Int
  /-- The seconds by which local time is ahead of universal time. -/
  ahead : Int
  /-- The addresses of host names, in the order in which the resolver gives them. -/
  names : List (String × List Address)
  /-- The machine's own IPv4 address. -/
  own4 : Option Address
  /-- The machine's own IPv6 address. -/
  own6 : Option Address
  deriving Repr

namespace World

/-- A world without names and addresses. -/
def isolated (now ahead : Int) : World :=
  ⟨now, ahead, [], none, none⟩

/-- The addresses of a host: an address is its own, a name has those of the resolver. -/
def resolve (w : World) (host : String) : List Address :=
  match Address.parse? host.toList with
  | some a => [a]
  | none => if host.toList.contains '\x00' then [] else (w.names.lookup host).getD []

/-- The moment in local or in universal time. -/
def moment (w : World) (universal : Bool) : Int :=
  if universal then w.now else w.now + w.ahead

/-- The date. -/
def date (w : World) (universal : Bool) : Calendar.Date :=
  Calendar.date (w.moment universal)

/-- The time of day. -/
def timeOfDay (w : World) (universal : Bool) : Calendar.TimeOfDay :=
  Calendar.timeOfDay (w.moment universal)

end World

end ProxyAutoConfig
