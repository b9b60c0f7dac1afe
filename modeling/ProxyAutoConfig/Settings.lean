import ProxyAutoConfig.Credential
import ProxyAutoConfig.Log

/-!
# Settings from the environment

An operator can override what a program passes to a session by three variables. A variable
whose value is blank counts as absent.
-/

namespace ProxyAutoConfig

open ProxyAutoConfig.Text

/-- The variables that are set, with their values. -/
abbrev Environment := List (String × String)

/-- What the environment overrides. -/
structure Overrides where
  /-- Authorities in place of those passed to a session. -/
  authorities : Option (List String)
  /-- A credential for downloading a script. -/
  download : Option Credential
  logLevel : Option Log.Level

namespace Overrides

/-- Nothing is overridden. -/
def blank : Overrides :=
  ⟨none, none, none⟩

/-- The variable with authorities between commas. -/
def authoritiesVariable : String := "PACPROXY_PROXIES_AUTH"

/-- The variable with the credential for downloads. -/
def downloadVariable : String := "PACPROXY_AUTH"

/-- The variable with the level of a log. -/
def logLevelVariable : String := "PACPROXY_LOG_LEVEL"

/-- The value of a variable, unless it is blank. -/
def read? (environment : Environment) (name : String) : Option (List Char) :=
  match environment.lookup name with
  | some value => if isAllBlank value.toList then none else some value.toList
  | none => none

/-- The entries between commas, without the blanks around them; empty entries do not count. -/
def entries (value : List Char) : List String :=
  (((value.splitOn ',').map trim).filter (!·.isEmpty)).map String.ofList

/-- Read the overrides; of two variables that cannot be read, the credential is reported. -/
def ofEnvironment (environment : Environment) : Outcome Overrides := do
  let authorities := (read? environment authoritiesVariable).map entries
  let download ←
    match read? environment downloadVariable with
    | none => pure none
    | some value =>
      match Credential.parse (String.ofList (trim value)) with
      | .ok credential => pure (some credential)
      | .error flaw => .error flaw.toFailure
  let logLevel ←
    match read? environment logLevelVariable with
    | none => pure none
    | some value => (Log.Level.parse (String.ofList value)).map some
  return ⟨authorities, download, logLevel⟩

/-- The authorities that count: those of the environment, where it has any. -/
def effective (overrides : Overrides) (authorities : List String) : List String :=
  overrides.authorities.getD authorities

end Overrides

end ProxyAutoConfig
