import ProxyAutoConfig.Proxy.Listing
import ProxyAutoConfig.Source.FilePath
import ProxyAutoConfig.Source.Journal
import ProxyAutoConfig.Url.Userinfo

/-!
# Loading scripts

A specifier is a web address, a script itself, or the name of a file, and it is looked at in this
order: what begins with `http://` or `https://` is downloaded, what mentions the decision
function is the script, and everything else names a file.

A download sends the credential of the environment, or else the one in the URL; neither ever
stands in the URL that is requested. Where an answer leads elsewhere, the client follows it without
being told to, and what it brings back is the last answer. Loading ends with a look at the content:
it must not be blank, and it has to mention the decision function.
-/

namespace ProxyAutoConfig

open ProxyAutoConfig.Text

/-- The name of the function that every script defines. -/
def decisionFunction : String := "FindProxyForURL"

/-- What is said of a decision function that is not there. -/
def notDefined : String := "`" ++ decisionFunction ++ "` is not defined"

namespace Source

/-- What is answered to a download. -/
structure Reply where
  status : Nat
  body : List UInt8

/-- What opening a session finds outside. -/
structure Supply where
  /-- The last answer to a request, where there is one. -/
  reply : Request → Option Reply
  /-- What the client sends behind a request, to follow the answers to where they lead. -/
  onward : Request → List Request := fun _ => []
  /-- The bytes of a file, if it can be read. -/
  file : String → Option (List UInt8)
  /-- How the table of a session lists its keys. -/
  order : Listing := .byKey

/-- The download that begins with a request. -/
def Supply.attempt (supply : Supply) (request : Request) : Download :=
  ⟨request, supply.onward request, (supply.reply request).isSome⟩

/-- A supply of files alone. -/
def Supply.ofFiles (files : List (String × List UInt8)) : Supply where
  reply _ := none
  file path := files.lookup path

/-- Where a script comes from. -/
inductive Origin where
  | remote
  | text
  | file
  deriving DecidableEq, Repr

/-- Where the script of a specifier comes from. -/
def Origin.ofSpecifier (specifier : String) : Origin :=
  let cs := specifier.toList
  if "http://".toList.isPrefixOf cs || "https://".toList.isPrefixOf cs then .remote
  else if holds decisionFunction.toList cs then .text
  else .file

/-- A script, and what it is called in messages. -/
structure Loaded where
  label : String
  content : String

/-- The number of bytes of a text. -/
def byteCount (cs : List Char) : String :=
  toString (Utf8.encode cs).length

/-- A status that a failure may show: one that the protocol knows, or a server's failure. -/
def knownStatus (status : Nat) : Nat :=
  if 100 ≤ status ∧ status ≤ 511 then status else 500

/-- The credential in the user information of a URL; a password without a user name is none. -/
def embedded? (url : Url) : Option Credential :=
  match url.password with
  | none => none
  | some password =>
    if url.username.isEmpty then none
    else
      match Url.decodePart? url.username, Url.decodePart? password with
      | some username, some password => (Credential.ofParts username password).toOption
      | _, _ => none

/-- Send a request. The download that begins with it is noted, whatever comes of it. -/
def send (supply : Supply) (request : Request) : Recorded (Option Reply) := do
  modify (·.addDownload (supply.attempt request))
  return supply.reply request

/-- Download a script. -/
def download (supply : Supply) (override : Option Credential) (specifier : String) :
    Recorded String := do
  let shown := Redaction.uriText specifier
  match Url.parse specifier with
  | .error flaw => throw (refusedUrl specifier flaw.message)
  | .ok url =>
    let credential := override.or (embedded? url)
    Recorded.report .info "Downloading PAC script" [("url", shown)]
    if let some c := credential then
      Recorded.report .debug "Attaching basic auth to PAC request" [("credential", c.shown)]
    let request : Request :=
      ⟨url.withoutUserinfo.withoutFragment.text, credential.map Credential.header⟩
    match ← send supply request with
    | none => throw (.fetch shown)
    | some reply =>
      if reply.status = 200 then
        let content := Utf8.decodeLossy reply.body
        Recorded.report .info "PAC script downloaded"
          [("url", shown), ("bytes", byteCount content)]
        return String.ofList content
      else
        Recorded.report .error "PAC download failed"
          [("url", shown), ("status", toString reply.status)]
        throw (.fetchStatus shown (knownStatus reply.status))

/-- Read a script from a file. -/
def readFile (supply : Supply) (specifier : String) : Recorded Loaded := do
  let path ← Recorded.ofOutcome (filePath specifier)
  match (supply.file path).map Utf8.decode with
  | some (.ok content) =>
    Recorded.report .info "PAC file loaded" [("path", path), ("bytes", byteCount content)]
    return ⟨path, String.ofList content⟩
  | _ => throw (.read path)

/-- Content that can be a script: it is not blank and mentions the decision function. -/
def checkContent (content : String) : Outcome Unit :=
  if isAllBlank content.toList then .error (.invalidContent "content is empty")
  else if !holds decisionFunction.toList content.toList then .error (.invalidContent notDefined)
  else .ok ()

/-- Load the script of a specifier. -/
def load (supply : Supply) (override : Option Credential) (specifier : String) :
    Recorded Loaded := do
  let loaded ←
    match Origin.ofSpecifier specifier with
    | .remote => do
      let content ← download supply override specifier
      pure ⟨Redaction.uriText specifier, content⟩
    | .text => pure ⟨"text", specifier⟩
    | .file => readFile supply specifier
  Recorded.ofOutcome (checkContent loaded.content)
  return loaded

end Source

end ProxyAutoConfig
