/-!
# What can go wrong

Every way in which a session, a lookup or one of their inputs can fail, with the wording that a
caller is shown. A failure names what it is about in redacted form only: whoever builds one
hands over text from which passwords have been removed.

`Failure.kind` sorts failures coarsely, by what a caller could do about them.
-/

namespace ProxyAutoConfig

/-- A reason why no session, no decision or no proxy list could be had. -/
inductive Failure where
  /-- A required value is absent or blank. -/
  | missing (what : String)
  /-- A user name and password that are no credential. -/
  | invalidCredential (reason : String)
  /-- A directive of a decision that means nothing. -/
  | invalidDirective (reason : String)
  /-- A proxy address that is no proxy URI. -/
  | invalidProxyUri (uri reason : String)
  /-- A declared authority that carries no usable credential or address. -/
  | invalidAuthorityUri (uri reason : String)
  /-- Content that cannot be a configuration script. -/
  | invalidContent (reason : String)
  /-- A URL that cannot be read. -/
  | invalidUrl (url reason : String)
  /-- A setting with a value that it cannot take. -/
  | invalidConfig (reason : String)
  /-- The origin answered a download with a status other than success. -/
  | fetchStatus (origin : String) (status : Nat)
  /-- The origin gave no answer to a download. -/
  | fetch (origin : String)
  /-- A script file that cannot be read as text. -/
  | read (path : String)
  /-- The script engine did not start. -/
  | engineStart
  /-- A part of the script's surroundings, or the script itself, did not load. -/
  | scriptLoad (stage message : String)
  /-- A host function that cannot be given to scripts. -/
  | nativeRegistration (name reason : String)
  /-- The decision function is absent or did not return a decision. -/
  | evaluation (message : String)
  deriving DecidableEq, Repr

/-- What sort of failure it is. -/
inductive Failure.Kind where
  /-- A value is absent. -/
  | missing
  /-- A value is present and malformed. -/
  | invalid
  /-- Content could not be obtained. -/
  | fetchFailed
  /-- The script could not be set up. -/
  | scriptLoadFailed
  /-- A host function could not be registered. -/
  | nativeRegistrationFailed
  /-- The decision function failed. -/
  | evaluationFailed
  deriving DecidableEq, Repr

namespace Failure

/-- The sort of a failure. -/
def kind : Failure → Kind
  | missing _ => .missing
  | invalidCredential _ | invalidDirective _ | invalidProxyUri .. | invalidAuthorityUri ..
  | invalidContent _ | invalidUrl .. | invalidConfig _ | read _ => .invalid
  | fetchStatus .. | fetch _ => .fetchFailed
  | engineStart | scriptLoad .. => .scriptLoadFailed
  | nativeRegistration .. => .nativeRegistrationFailed
  | evaluation _ => .evaluationFailed

/-- The status that came with a failed download. -/
def status? : Failure → Option Nat
  | fetchStatus _ status => some status
  | _ => none

/-- The wording of a failure. -/
def message : Failure → String
  | missing what => "missing " ++ what
  | invalidCredential reason => "invalid credential: " ++ reason
  | invalidDirective reason => "invalid proxy directive: " ++ reason
  | invalidProxyUri uri reason => "invalid proxy URI `" ++ uri ++ "`: " ++ reason
  | invalidAuthorityUri uri reason => "invalid authority URI `" ++ uri ++ "`: " ++ reason
  | invalidContent reason => "invalid PAC content: " ++ reason
  | invalidUrl url reason => "invalid URL `" ++ url ++ "`: " ++ reason
  | invalidConfig reason => "invalid configuration: " ++ reason
  | fetchStatus origin status =>
    "failed to retrieve PAC content from " ++ origin ++ ": HTTP " ++ toString status
  | fetch origin => "failed to retrieve PAC content from " ++ origin
  | read path => "failed to read PAC file " ++ path
  | engineStart => "failed to start PAC engine thread"
  | scriptLoad stage message => "failed to load " ++ stage ++ ": " ++ message
  | nativeRegistration name reason =>
    "failed to register native function `" ++ name ++ "`: " ++ reason
  | evaluation message => "failed to call `FindProxyForURL`: " ++ message

end Failure

/-- The outcome of something that may fail. -/
abbrev Outcome (α : Type) := Except Failure α

end ProxyAutoConfig
