import ProxyAutoConfig.Url.Userinfo

/-!
# Proxy URIs

The address of a proxy: a URL with a host. It is written without the slash that a URL has for an
empty path, so that `http://4.5.6.7:8080` stays as it is, and without a fragment. Its authority,
`host:port`, is the key under which a credential for it is declared.
-/

namespace ProxyAutoConfig

/-- A URL with a host, in a hierarchy. -/
structure ProxyUri where
  url : Url
  hierarchical : url.isOpaque = false
  hosted : url.hostText?.isSome = true

namespace ProxyUri

/-- A URL as a proxy URI, where it has a host. -/
def ofUrl? (url : Url) : Option ProxyUri :=
  if h : url.isOpaque = false ∧ url.hostText?.isSome = true then some ⟨url, h.1, h.2⟩ else none

/-- Read a proxy URI. -/
def parse (address : String) : Outcome ProxyUri :=
  match Url.parse address with
  | .error flaw => .error (.invalidProxyUri (Redaction.uriText address) flaw.message)
  | .ok url =>
    match ofUrl? url with
    | some uri => .ok uri
    | none => .error (.invalidProxyUri (Redaction.uriText address) "missing host")

/-- The scheme. -/
def scheme (uri : ProxyUri) : String :=
  uri.url.scheme

/-- The host as it is written, an IPv6 address in brackets. -/
def host (uri : ProxyUri) : String :=
  uri.url.hostText?.get uri.hosted

/-- The port that is written, or else the one that the scheme stands for. -/
def port? (uri : ProxyUri) : Option UInt16 :=
  uri.url.effectivePort?

/-- A host and perhaps a port behind a colon. -/
def key (host : String) (port : Option UInt16) : String :=
  host ++ Url.portText port

/-- Host and port, or the host alone where there is no port. -/
def authority (uri : ProxyUri) : String :=
  key uri.host uri.port?

/-- The credential that the URI carries. -/
def credential? (uri : ProxyUri) : Option Credential :=
  uri.url.credential?

/-- User name and password in front of the host, the password as `show` tells. A password without
a user name is left out. -/
def userinfoText (uri : ProxyUri) (shown : String → String) : String :=
  if uri.url.username = "" then ""
  else
    match uri.url.password with
    | some password => uri.url.username ++ ":" ++ shown password ++ "@"
    | none => uri.url.username ++ "@"

/-- The URI with its password written as `shown` tells. -/
def render (uri : ProxyUri) (shown : String → String) : String :=
  let path := uri.url.path.text
  uri.scheme ++ "://" ++ uri.userinfoText shown ++ uri.host ++ Url.portText uri.url.port ++
    (if path = "/" then "" else path) ++ Url.tailText "?" uri.url.query

/-- The URI as text. -/
def text (uri : ProxyUri) : String :=
  uri.render id

/-- The URI with a star for every character of its encoded password. -/
def redacted (uri : ProxyUri) : String :=
  uri.render fun password => String.ofList (Redaction.mask password.toList)

/-- The redacted URI with the name of its type. -/
def detail (uri : ProxyUri) : String :=
  "ProxyUri(" ++ Text.quoted uri.redacted ++ ")"

/-- The URI with another URL, where that can be one. -/
def withUrl (uri : ProxyUri) (url : Url) : ProxyUri :=
  (ofUrl? url).getD uri

/-- Write a credential in place of the user name and password that there were. A failure shows the
URI as the attempt has left it. -/
def setCredential (credential : Credential) : EStateM Failure ProxyUri Unit := fun uri =>
  match Url.setCredential credential uri.url with
  | .ok _ url => .ok () (uri.withUrl url)
  | .error _ url =>
    let left := uri.withUrl url
    .error (.invalidProxyUri left.redacted "cannot carry credentials") left

/-- The URI with a credential in place of the user name and password it had. -/
def withCredential (uri : ProxyUri) (credential : Credential) : Outcome ProxyUri :=
  match setCredential credential uri with
  | .ok _ uri => .ok uri
  | .error failure _ => .error failure

end ProxyUri

end ProxyAutoConfig
