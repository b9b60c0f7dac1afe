import ProxyAutoConfig.Native.Glob
import ProxyAutoConfig.Native.Range
import ProxyAutoConfig.Native.World

/-!
# Host functions

What scripts can learn of the world: the addresses of hosts and of the machine itself, and
whether the moment lies in a range of time. Addresses are given as text, several of them with
semicolons between them.
-/

namespace ProxyAutoConfig.HostFunction

open ProxyAutoConfig.Net ProxyAutoConfig.Range

/-- Addresses as text. -/
def addressList (as : List Address) : String :=
  ";".intercalate (as.map fun a => String.ofList a.text)

/-- The first IPv4 address of a host. -/
def dnsResolve (w : World) (host : String) : Option String :=
  ((w.resolve host).find? Address.isV4).map fun a => String.ofList a.text

/-- All addresses of a host. -/
def dnsResolveEx (w : World) (host : String) : String :=
  addressList (w.resolve host)

/-- The host has an IPv4 address. -/
def isResolvable (w : World) (host : String) : Bool :=
  (w.resolve host).any Address.isV4

/-- The host has an address. -/
def isResolvableEx (w : World) (host : String) : Bool :=
  !(w.resolve host).isEmpty

/-- The machine's own IPv4 address; that of the loopback where it has none. -/
def myIpAddress (w : World) : String :=
  match w.own4 with
  | some a => String.ofList a.text
  | none => "127.0.0.1"

/-- The machine's own addresses. -/
def myIpAddressEx (w : World) : String :=
  addressList (w.own4.toList ++ w.own6.toList)

/-- An address lies in a network. -/
def isInNetEx (address network : String) : Bool :=
  match Address.parse? address.toList with
  | some a => a.liesIn network.toList
  | none => false

/-- A value matches a glob. -/
def shExpMatch (value glob : String) : Bool :=
  Glob.holds glob.toList value.toList

/-- The weekday lies in a range. -/
def weekdayRange (w : World) (terms : List Term) : Bool :=
  let (terms, gmt) := universal terms
  Range.weekdayRange terms (w.date gmt)

/-- The date lies in a range. -/
def dateRange (w : World) (terms : List Term) : Bool :=
  let (terms, gmt) := universal terms
  Range.dateRange terms (w.date gmt)

/-- The time of day lies in a range. -/
def timeRange (w : World) (terms : List Term) : Bool :=
  let (terms, gmt) := universal terms
  Range.timeRange terms (w.timeOfDay gmt)

end ProxyAutoConfig.HostFunction
