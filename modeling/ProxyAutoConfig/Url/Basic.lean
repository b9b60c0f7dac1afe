import ProxyAutoConfig.Net.Address

/-!
# URLs

A URL as its parts, each in the form in which it is written: what has to be encoded in a part is
encoded there already. The user name is empty when there is none, a password is never empty, and
the port is absent when it is the one that the scheme stands for.

A path is either a list of segments, each written behind a slash, or, in a URL that is no
address of anything hierarchical (`mailto:`), a text of its own.
-/

namespace ProxyAutoConfig

open ProxyAutoConfig.Net

/-- Characters that no host of any scheme holds. -/
def Host.refusedChars : List Char :=
  ['\x00', '\t', '\n', '\r', ' ', '#', '/', ':', '<', '>', '?', '@', '[', '\\', ']', '^', '|']

/-- A character that no host of any scheme holds. -/
def Host.isRefused (c : Char) : Bool :=
  refusedChars.contains c

/-- A text that names a host: not empty, and without the characters that no host holds. -/
def Host.IsName (name : String) : Prop :=
  name.toList ≠ [] ∧ name.toList.any isRefused = false

/-- Whom a URL addresses. -/
inductive Host where
  /-- Nobody: an authority without a name. -/
  | empty
  /-- A name: a domain in ASCII, or any text where the scheme has no rules of its own. -/
  | named (name : String) (isName : Host.IsName name)
  | ipv4 (bits : Ipv4)
  | ipv6 (bits : Ipv6)
  deriving DecidableEq, Repr

/-- Where a URL points within its host. -/
inductive Path where
  /-- A text without structure. -/
  | opaqueText (text : String)
  | segments (list : List String)
  deriving DecidableEq, Repr

/-- A URL in parts. -/
structure Url where
  scheme : String
  username : String
  password : Option String
  host : Option Host
  port : Option UInt16
  path : Path
  query : Option String
  fragment : Option String
  deriving DecidableEq, Repr

/-- What a scheme brings with it: rules for hosts and paths, and perhaps a port. -/
inductive Scheme.Kind where
  /-- Files, whose host may be absent. -/
  | file
  /-- A network scheme with a port of its own. -/
  | network (port : UInt16)
  /-- Any other scheme. -/
  | other
  deriving DecidableEq, Repr

/-- The kind of a scheme. -/
def Scheme.kind (scheme : String) : Scheme.Kind :=
  match scheme with
  | "file" => .file
  | "http" | "ws" => .network 80
  | "https" | "wss" => .network 443
  | "ftp" => .network 21
  | _ => .other

/-- The scheme has rules of its own. -/
def Scheme.Kind.isSpecial : Scheme.Kind → Bool
  | other => false
  | _ => true

/-- The port that a scheme stands for. -/
def Scheme.defaultPort? (scheme : String) : Option UInt16 :=
  match kind scheme with
  | .network port => some port
  | _ => none

/-- A host as it is written in a URL. -/
def Host.text : Host → String
  | empty => ""
  | named name _ => name
  | ipv4 bits => String.ofList (Ipv4.text bits)
  | ipv6 bits => String.ofList ('[' :: Ipv6.text bits ++ [']'])

/-- A path as it is written in a URL. -/
def Path.text : Path → String
  | opaqueText text => text
  | segments list => String.ofList (list.flatMap fun s => '/' :: s.toList)

namespace Url

/-- The host's text; a host that is empty counts as none. -/
def hostText? (url : Url) : Option String :=
  match url.host with
  | none | some .empty => none
  | some host => some host.text

/-- The port that is written, or else the one that the scheme stands for. -/
def effectivePort? (url : Url) : Option UInt16 :=
  url.port.or (Scheme.defaultPort? url.scheme)

/-- The URL addresses nothing hierarchical. -/
def isOpaque (url : Url) : Bool :=
  match url.path with
  | .opaqueText _ => true
  | .segments _ => false

/-- The user name and password as they are written in front of the host. -/
def userinfoText (url : Url) : String :=
  match url.password with
  | some password => url.username ++ ":" ++ password ++ "@"
  | none => if url.username = "" then "" else url.username ++ "@"

/-- A port behind its colon. -/
def portText : Option UInt16 → String
  | some port => ":" ++ toString port.toNat
  | none => ""

/-- What stands between the scheme and the path. -/
def authorityText (url : Url) : String :=
  match url.host with
  | some host => "//" ++ url.userinfoText ++ host.text ++ portText url.port
  | none =>
    match url.path with
    | .segments ("" :: _ :: _) => "/."
    | _ => ""

/-- An optional last part behind its mark. -/
def tailText (mark : String) : Option String → String
  | some text => mark ++ text
  | none => ""

/-- The URL as text. -/
def text (url : Url) : String :=
  url.scheme ++ ":" ++ url.authorityText ++ url.path.text ++ tailText "?" url.query ++
    tailText "#" url.fragment

/-- The URL without its user name and password. -/
def withoutUserinfo (url : Url) : Url :=
  { url with username := "", password := none }

/-- The URL without its fragment. -/
def withoutFragment (url : Url) : Url :=
  { url with fragment := none }

end Url

end ProxyAutoConfig
