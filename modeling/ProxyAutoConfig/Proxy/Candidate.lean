import ProxyAutoConfig.Mode
import ProxyAutoConfig.Proxy.Uri

/-!
# Decisions

What a script decides is a text such as `PROXY 4.5.6.7:8080; SOCKS5 4.5.6.7:8083; DIRECT`:
directives between semicolons, in the order in which a client is to try them. A directive is a
mode alone, or a mode and an address. What has no field, or more than two, is passed over; any
other directive that makes no sense spoils the whole decision.
-/

namespace ProxyAutoConfig

open ProxyAutoConfig.Text

/-- One directive of a decision. -/
structure Candidate where
  mode : Mode
  /-- The address with its scheme; empty for a mode alone. -/
  address : String
  /-- The proxy at that address; none for a mode alone. -/
  target : Option ProxyUri

namespace Candidate

/-- A mode alone. -/
def bare (mode : Mode) : Candidate :=
  ⟨mode, "", none⟩

/-- The proxy to connect to; a direct connection has none, whatever its address says. -/
def uri? (c : Candidate) : Option ProxyUri :=
  if c.mode = .direct then none else c.target

/-- The client is to connect directly. -/
def isDirect (c : Candidate) : Bool :=
  c.mode == .direct

/-- The mode, and the proxy as `shown` tells. -/
def render (c : Candidate) (shown : ProxyUri → String) : String :=
  match c.uri? with
  | some uri => c.mode.word ++ " " ++ shown uri
  | none => c.mode.word

/-- The directive as text. -/
def text (c : Candidate) : String :=
  c.render ProxyUri.text

/-- The directive as text, its password hidden. -/
def redacted (c : Candidate) : String :=
  c.render ProxyUri.redacted

/-- The words that show that an address has a scheme. -/
def schemeWords : List String :=
  ["http", "https", "socks5", "socks", "quic"]

/-- An address that has a scheme of its own: one of the words stands anywhere in it. -/
def namesScheme (address : List Char) : Bool :=
  schemeWords.any fun word => holds word.toList address

/-- An address with the scheme of its mode in front, unless it has one. -/
def withScheme (mode : Mode) (address : List Char) : String :=
  match mode.defaultScheme? with
  | some scheme =>
    if namesScheme address then String.ofList address
    else scheme ++ "://" ++ String.ofList address
  | none => String.ofList address

/-- A mode and an address. -/
def ofAddress (mode : Mode) (address : List Char) : Outcome Candidate :=
  match ProxyUri.parse (withScheme mode address) with
  | .ok uri => .ok ⟨mode, withScheme mode address, some uri⟩
  | .error failure => .error failure

/-- The candidates of one directive: none, or one. -/
def ofDirective (directive : List Char) : Outcome (List Candidate) :=
  match fields directive with
  | [token] => (Mode.parse (String.ofList token)).map fun mode => [bare mode]
  | [token, address] => do
    let mode ← Mode.parse (String.ofList token)
    return [← ofAddress mode address]
  | _ => .ok []

/-- The candidates of several directives, or the first failure. -/
def ofDirectives : List (List Char) → Outcome (List Candidate)
  | [] => .ok []
  | directive :: rest => do
    let here ← ofDirective directive
    let there ← ofDirectives rest
    return here ++ there

end Candidate

/-- The candidates of a decision, in its order. -/
def parseDecision (decision : String) : Outcome (List Candidate) :=
  Candidate.ofDirectives (decision.toList.splitOn ';')

end ProxyAutoConfig
