import ProxyAutoConfig.Proofs.Outcome
import ProxyAutoConfig.Proofs.Proxy.Carrying
import ProxyAutoConfig.Proofs.Proxy.Declared

/-!
# What is wrong with proxies

Declared authorities, decisions and addresses fail in one way only: they are there, and they are
malformed.
-/

namespace ProxyAutoConfig

open ProxyAutoConfig.Outcome (FailsAs)

theorem Mode.parse_fails (token : String) : FailsAs [.invalid] (Mode.parse token) := by
  unfold Mode.parse
  split
  · exact .ok _
  · exact .error List.mem_cons_self

namespace ProxyUri

theorem parse_fails (address : String) : FailsAs [.invalid] (ProxyUri.parse address) := by
  unfold ProxyUri.parse
  split
  · exact .error List.mem_cons_self
  · split
    · exact .ok _
    · exact .error List.mem_cons_self

theorem withCredential_fails (uri : ProxyUri) (credential : Credential) :
    FailsAs [.invalid] (uri.withCredential credential) := by
  rw [withCredential, setCredential_eq]
  by_cases file : uri.scheme = "file"
  · simp only [if_pos file]
    exact .error List.mem_cons_self
  · simp only [if_neg file]
    exact .ok _

end ProxyUri

/-! ## Decisions -/

namespace Candidate

theorem ofAddress_fails (mode : Mode) (address : List Char) :
    FailsAs [.invalid] (ofAddress mode address) := by
  have parsed := ProxyUri.parse_fails (withScheme mode address)
  unfold ofAddress
  cases outcome : ProxyUri.parse (withScheme mode address) with
  | ok uri => exact .ok _
  | error failure => exact .error (parsed failure outcome)

theorem ofDirective_fails (directive : List Char) :
    FailsAs [.invalid] (ofDirective directive) := by
  unfold ofDirective
  split
  · exact (Mode.parse_fails _).map
  · exact (Mode.parse_fails _).bind fun mode =>
      (ofAddress_fails mode _).bind fun candidate => .ok _
  · exact .ok _

theorem ofDirectives_fails (directives : List (List Char)) :
    FailsAs [.invalid] (ofDirectives directives) := by
  induction directives with
  | nil => exact .ok _
  | cons directive rest ih =>
    exact (ofDirective_fails directive).bind fun _ => ih.bind fun _ => .ok _

end Candidate

/-- A decision that cannot be read is malformed. -/
theorem parseDecision_fails (decision : String) : FailsAs [.invalid] (parseDecision decision) :=
  Candidate.ofDirectives_fails _

/-! ## Tables -/

namespace CredentialTable

theorem parseAuthority_fails (authority : String) :
    FailsAs [.invalid] (parseAuthority authority) := by
  unfold parseAuthority
  repeat' first
    | exact .error List.mem_cons_self
    | exact .ok _
    | split

theorem attach_fails (table : CredentialTable) (candidate : Candidate) :
    FailsAs [.invalid] (table.attach candidate) := by
  unfold attach
  split
  · exact .ok _
  · split
    · exact .ok _
    · exact (ProxyUri.withCredential_fails _ _).map

/-- A credential that cannot be put into an address makes the address malformed. -/
theorem associate_fails (table : CredentialTable) (candidates : List Candidate) :
    FailsAs [.invalid] (table.associate candidates) :=
  .mapM table.attach_fails candidates

end CredentialTable

end ProxyAutoConfig
