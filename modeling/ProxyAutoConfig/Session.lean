import ProxyAutoConfig.Engine
import ProxyAutoConfig.Proxy.CredentialTable
import ProxyAutoConfig.Settings

/-!
# Sessions

A session is a loaded script together with the credentials of the proxies that it may name.
Looking up a URL gives the script's decision as it stands, or the candidates that it names, each
with its credential.
-/

namespace ProxyAutoConfig

open ProxyAutoConfig.Net ProxyAutoConfig.Text

/-- What a session needs besides a specifier. -/
structure Options where
  authorities : List String
  overrides : Overrides
  natives : NativeTable
  limits : Limits

namespace Options

/-- The options that are used where none are given. -/
def standard : Options :=
  ⟨[], .blank, .standard, .standard⟩

/-- The authorities that count. -/
def effective (o : Options) : List String :=
  o.overrides.effective o.authorities

end Options

/-- A loaded script with the credentials of proxies. -/
structure Session where
  /-- What the script is called in messages. -/
  source : String
  content : String
  credentials : CredentialTable
  /-- How the table lists its keys. -/
  order : Listing
  engine : Engine

namespace Session

/-- Open a session. -/
def «open» (supply : Source.Supply) (w : World) (options : Options) (specifier : String) :
    Recorded Session := do
  if isAllBlank specifier.toList then throw (.missing "PAC source")
  let credentials ← Recorded.ofOutcome (CredentialTable.ofAuthorities options.effective)
  let loaded ← Source.load supply options.overrides.download specifier
  Recorded.report .trace "PAC content" [("content", loaded.content)]
  let engine ← Recorded.ofOutcome
    (Engine.start options.natives options.limits w loaded.content)
  modify (·.addEngine .debug "PAC engine ready"
    [("natives", toString options.natives.length)])
  Recorded.report .debug "PAC session ready"
    [("source", loaded.label),
      ("credentials", ", ".intercalate
        ((credentials.listed supply.order).map CredentialTable.shownEntry))]
  return ⟨loaded.label, loaded.content, credentials, supply.order, engine⟩

/-- The text of a session with such a source and such entries. -/
def detailText (source : String) (entries : List String) : String :=
  "PacSession \x7b source: " ++ quoted source ++
    ", credentials: ProxyCredentialTable \x7b entries: \x7b" ++ ", ".intercalate entries ++
    "\x7d \x7d, .. \x7d"

/-- The session as text; passwords are hidden. -/
def detail (s : Session) : String :=
  detailText s.source ((s.credentials.listed s.order).map CredentialTable.detailEntry)

/-- A session in use, and its journal. -/
structure Use where
  session : Session
  journal : Journal

/-- A use of a session that may fail; the session stays usable. -/
abbrev Lookup := EStateM Failure Use

/-- Change the journal. -/
def note (f : Journal → Journal) : Lookup Unit :=
  modify fun u => { u with journal := f u.journal }

/-- The host of a URL as a script sees it: an IPv6 address has no brackets. -/
def scriptHost (url : Url) : String :=
  match url.host with
  | some (.ipv6 bits) => String.ofList (Ipv6.mixedText bits)
  | some host => host.text
  | none => ""

/-- The script's decision for a URL. -/
def decision (w : World) (url : String) : Lookup String := do
  match Url.parse url with
  | .error flaw => throw (.invalidUrl (Redaction.uriText url) flaw.message)
  | .ok parsed =>
    let u ← get
    let (outcome, engine) := u.session.engine.decide w url (scriptHost parsed)
    set { u with session := { u.session with engine } }
    match outcome with
    | .ok text => return text
    | .error failure =>
      note (·.addEngine .warn "PAC evaluation failed"
        [("url", url), ("error", failure.message)])
      throw failure

/-- The candidates that the script names for a URL, the preferred one first. -/
def candidates (w : World) (url : String) : Lookup (List Candidate) := do
  let text ← decision w url
  let table := (← get).session.credentials
  match parseDecision text >>= table.associate with
  | .error failure => throw failure
  | .ok found =>
    found.forM fun c => do
      if let some uri := c.uri? then
        note (·.addCaller .debug "found proxy"
          [("mode", c.mode.word), ("proxy", uri.redacted)])
    return found

/-- Use a session; the journal is that of this use alone. -/
def use {α : Type} (s : Session) (x : Lookup α) : Outcome α × Session × Journal :=
  match x ⟨s, Journal.empty⟩ with
  | .ok a u => (.ok a, u.session, u.journal)
  | .error f u => (.error f, u.session, u.journal)

end Session

/-- The candidates for a URL in one call, with settings from the environment. -/
def resolve (supply : Source.Supply) (w : World) (environment : Environment)
    (specifier url : String) : Outcome (List Candidate) := do
  let overrides ← Overrides.ofEnvironment environment
  let session ← (Session.open supply w { Options.standard with overrides } specifier).record.1
  (session.use (Session.candidates w url)).1

end ProxyAutoConfig
