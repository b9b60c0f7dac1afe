import ProxyAutoConfig.Credential
import ProxyAutoConfig.Url.Parser

/-!
# The credential of a URL

User name and password stand in a URL in encoded form. `credential?` reads them back, if they
are text and make a credential; `setCredential` writes one into a URL, which a URL without a host
and the URL of a file cannot carry. User name and password are written one after the other, each of
them for itself.
-/

namespace ProxyAutoConfig.Url

open ProxyAutoConfig.Text

/-- The text of a user name or password; none where its bytes are no text. -/
def decodePart? (part : String) : Option String :=
  match Percent.decodeText part.toList with
  | .ok cs => some (String.ofList cs)
  | .error _ => none

/-- The credential that a URL carries. -/
def credential? (url : Url) : Option Credential :=
  match url.password.bind decodePart?, decodePart? url.username with
  | some password, some username => (Credential.ofParts username password).toOption
  | _, _ => none

/-- A URL that can carry a credential. -/
def carriesCredential (url : Url) : Bool :=
  url.hostText?.isSome && url.scheme != "file"

/-- A change of a URL. One that is refused leaves the URL as it is at that moment. -/
abbrev Edit := EStateM Unit Url Unit

/-- Write a part of the user information, where the URL can carry a credential. -/
def setUserinfo (write : Url → Url) : Edit := do
  if (← get).carriesCredential then modify write else throw ()

/-- Write a user name. -/
def setUsername (username : String) : Edit :=
  setUserinfo fun url => { url with username := encodeUserinfo username.toList }

/-- Write a password; an empty one is none. -/
def setPassword (password : String) : Edit :=
  setUserinfo fun url => { url with
    password := if password = "" then none else some (encodeUserinfo password.toList) }

/-- Write a credential in place of the user name and password that there were. -/
def setCredential (credential : Credential) : Edit := do
  setUsername credential.username
  setPassword credential.password

end ProxyAutoConfig.Url
