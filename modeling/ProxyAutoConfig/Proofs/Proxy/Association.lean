import ProxyAutoConfig.Proofs.Outcome
import ProxyAutoConfig.Proofs.Proxy.Carrying
import ProxyAutoConfig.Proxy.CredentialTable

/-!
# What association does to a decision

Association takes one candidate after the other. `attach_eq_ok` and `attach_eq_error` say what it
can do to one: leave it as it is, make its proxy carry the credential that the table has for it, or
fail because the proxy is a file. What the table has for a proxy depends on the host and the port
alone, and neither changes; so a candidate that has been associated is associated with the same
credential again, which is there already.

**The law** (`associate_frame`) says it of whole decisions: user information is all that is written.
-/

namespace ProxyAutoConfig

/-! ## Addresses -/

namespace ProxyUri

/-- **URIs that differ in nothing but user information.** -/
structure SameBehindLogin (a b : ProxyUri) : Prop where
  scheme : a.scheme = b.scheme
  host : a.url.host = b.url.host
  port : a.url.port = b.url.port
  path : a.url.path = b.url.path
  query : a.url.query = b.url.query
  fragment : a.url.fragment = b.url.fragment

/-- **A URI carries a credential**: its user information is made of the two parts, each in the
characters that may stand there. -/
structure Carries (uri : ProxyUri) (credential : Credential) : Prop where
  username : uri.url.username = Url.encodeUserinfo credential.username.toList
  password : uri.url.password = some (Url.encodeUserinfo credential.password.toList)

variable {uri : ProxyUri} {credential other : Credential}

theorem SameBehindLogin.refl (uri : ProxyUri) : uri.SameBehindLogin uri :=
  ⟨rfl, rfl, rfl, rfl, rfl, rfl⟩

/-- Writing a credential changes user information alone. -/
theorem sameBehindLogin_carrying : (uri.carrying credential).SameBehindLogin uri :=
  ⟨rfl, rfl, rfl, rfl, rfl, rfl⟩

/-- The credential that has been written is carried. -/
theorem carries_carrying : (uri.carrying credential).Carries credential :=
  ⟨rfl, rfl⟩

/-- Of two credentials the one written last counts. -/
@[simp] theorem carrying_carrying :
    (uri.carrying credential).carrying other = uri.carrying other := rfl

/-- **A failure to write a credential leaves the URI as it was.** -/
theorem eq_of_setCredential_eq_error {failure : Failure} {left : ProxyUri}
    (failed : setCredential credential uri = .error failure left) : left = uri := by
  rw [setCredential_eq] at failed
  by_cases file : uri.scheme = "file"
  · rw [if_pos file] at failed
    cases failed
    rfl
  · rw [if_neg file] at failed
    cases failed

/-- A file refuses a credential, and is shown with its password hidden. -/
theorem withCredential_eq_error {failure : Failure} :
    uri.withCredential credential = .error failure ↔
      uri.scheme = "file" ∧
        failure = .invalidProxyUri uri.redacted "cannot carry credentials" := by
  rw [withCredential, setCredential_eq]
  by_cases file : uri.scheme = "file"
  · simp only [file, if_true, Except.error.injEq, true_and]
    exact eq_comm
  · simp only [file, if_false, reduceCtorEq, false_and]

end ProxyUri

/-! ## Candidates -/

namespace Candidate

variable {candidate : Candidate} {uri other : ProxyUri}

/-- A candidate has a proxy where it does not stand for a direct connection and was given one. -/
theorem uri?_eq_some : candidate.uri? = some uri ↔
    candidate.isDirect = false ∧ candidate.target = some uri := by
  rw [Candidate.uri?, Candidate.isDirect, beq_eq_false_iff_ne]
  by_cases direct : candidate.mode = .direct
  · rw [if_pos direct]
    constructor
    · nofun
    · rintro ⟨indirect, _⟩
      exact absurd direct indirect
  · rw [if_neg direct]
    exact ⟨fun target => ⟨direct, target⟩, fun given => given.2⟩

/-- Putting another proxy into a candidate that has one changes which it has. -/
theorem uri?_of_target (target : candidate.uri? = some uri) :
    ({ candidate with target := some other } : Candidate).uri? = some other :=
  uri?_eq_some.mpr ⟨(uri?_eq_some.mp target).1, rfl⟩

end Candidate

namespace CredentialTable

variable {table : CredentialTable} {candidate before after : Candidate} {uri : ProxyUri}
  {credential : Credential}

/-- What a table has for a proxy does not depend on what the proxy carries. -/
@[simp] theorem resolve?_carrying : table.resolve? (uri.carrying credential) = table.resolve? uri :=
  rfl

/-- A candidate that is no file gets the credential that is found for its proxy. -/
theorem attach_of_resolve? (target : candidate.uri? = some uri) (notFile : uri.scheme ≠ "file")
    (found : table.resolve? uri = some credential) :
    table.attach candidate = .ok { candidate with target := some (uri.carrying credential) } := by
  simp only [attach, target, found, ProxyUri.withCredential_eq_ok.mpr ⟨notFile, rfl⟩]
  rfl

/-- A candidate without a proxy, or without a credential for it, stays as it is. -/
theorem attach_of_not_found
    (missing : ∀ uri, candidate.uri? = some uri → table.resolve? uri = none) :
    table.attach candidate = .ok candidate := by
  unfold attach
  cases target : candidate.uri? with
  | none => rfl
  | some uri => simp only [missing uri target]

/-- A file for which a credential is found fails. -/
theorem attach_of_file (target : candidate.uri? = some uri) (file : uri.scheme = "file")
    (found : table.resolve? uri = some credential) :
    table.attach candidate =
      .error (.invalidProxyUri uri.redacted "cannot carry credentials") := by
  simp only [attach, target, found, ProxyUri.withCredential_eq_error.mpr ⟨file, rfl⟩]
  rfl

/-- A table has a credential for a candidate's proxy, or the candidate is left alone. -/
theorem found_or_missing (table : CredentialTable) (candidate : Candidate) :
    (∃ uri credential, candidate.uri? = some uri ∧ table.resolve? uri = some credential) ∨
      ∀ uri, candidate.uri? = some uri → table.resolve? uri = none := by
  by_cases found : ∃ uri c, candidate.uri? = some uri ∧ table.resolve? uri = some c
  · exact .inl found
  · refine .inr fun uri target => Option.eq_none_iff_forall_ne_some.mpr fun c hit => ?_
    exact found ⟨uri, c, target, hit⟩

/-- **Association leaves a candidate as it is, or makes its proxy carry the credential that the
table has for it.** -/
theorem attach_eq_ok : table.attach before = .ok after ↔
    ((∀ uri, before.uri? = some uri → table.resolve? uri = none) ∧ after = before) ∨
      ∃ uri credential, before.uri? = some uri ∧ table.resolve? uri = some credential ∧
        uri.scheme ≠ "file" ∧ after = { before with target := some (uri.carrying credential) } := by
  constructor
  · intro attached
    rcases table.found_or_missing before with ⟨uri, credential, target, found⟩ | missing
    · by_cases file : uri.scheme = "file"
      · rw [attach_of_file target file found] at attached
        cases attached
      · rw [attach_of_resolve? target file found] at attached
        exact .inr ⟨uri, credential, target, found, file, (Except.ok.inj attached).symm⟩
    · rw [attach_of_not_found missing] at attached
      exact .inl ⟨missing, (Except.ok.inj attached).symm⟩
  · rintro (⟨missing, rfl⟩ | ⟨uri, credential, target, found, notFile, rfl⟩)
    · exact attach_of_not_found missing
    · exact attach_of_resolve? target notFile found

/-- **Only a file for which a credential is found fails.** -/
theorem attach_eq_error {failure : Failure} : table.attach candidate = .error failure ↔
    ∃ uri credential, candidate.uri? = some uri ∧ table.resolve? uri = some credential ∧
      uri.scheme = "file" ∧ failure = .invalidProxyUri uri.redacted "cannot carry credentials" := by
  constructor
  · intro failed
    rcases table.found_or_missing candidate with ⟨uri, credential, target, found⟩ | missing
    · by_cases file : uri.scheme = "file"
      · rw [attach_of_file target file found] at failed
        exact ⟨uri, credential, target, found, file, (Except.error.inj failed).symm⟩
      · rw [attach_of_resolve? target file found] at failed
        cases failed
    · rw [attach_of_not_found missing] at failed
      cases failed
  · rintro ⟨uri, credential, target, found, file, rfl⟩
    exact attach_of_file target file found

/-- **What is associated once is associated already.** -/
theorem attach_attach (attached : table.attach before = .ok after) :
    table.attach after = .ok after := by
  rcases attach_eq_ok.mp attached with ⟨_, rfl⟩ | ⟨uri, credential, target, found, notFile, rfl⟩
  · exact attached
  · have given : ({ before with target := some (uri.carrying credential) } : Candidate).uri? =
        some (uri.carrying credential) := Candidate.uri?_of_target target
    have again := attach_of_resolve? given notFile found
    rw [again, ProxyUri.carrying_carrying]

/-! ## Decisions -/

/-- **What association may do to a candidate**: where the candidate has a proxy and the table has a
credential for it, the proxy carries this credential; where not, nothing happens. Its mode and its
address stay, and so does all of its proxy but the user information. -/
structure Rewrites (table : CredentialTable) (before after : Candidate) : Prop where
  mode : after.mode = before.mode
  address : after.address = before.address
  target : Option.Rel ProxyUri.SameBehindLogin after.target before.target
  direct : before.isDirect = true → after = before
  bare : before.target = none → after = before
  unresolved : ∀ uri, before.target = some uri → table.resolve? uri = none → after = before
  resolved : ∀ uri credential, before.isDirect = false → before.target = some uri →
    table.resolve? uri = some credential →
    ∃ given, after.target = some given ∧ given.Carries credential

/-- **A candidate that cannot be associated**: it has a proxy that is a file, and the table has a
credential for it. -/
def Spoils (table : CredentialTable) (candidate : Candidate) : Prop :=
  candidate.isDirect = false ∧ ∃ uri, candidate.target = some uri ∧
    (table.resolve? uri).isSome = true ∧ uri.scheme = "file"

/-- Association does to a candidate what it may do. -/
theorem rewrites_of_attach (attached : table.attach before = .ok after) :
    table.Rewrites before after := by
  rcases attach_eq_ok.mp attached with ⟨missing, rfl⟩ | ⟨uri, credential, target, found, _, rfl⟩
  · refine ⟨rfl, rfl, ?_, fun _ => rfl, fun _ => rfl, fun _ _ _ => rfl, ?_⟩
    · cases after.target with
      | none => exact .none
      | some uri => exact .some (.refl uri)
    · intro uri credential proxied target found
      have nothing := missing uri (Candidate.uri?_eq_some.mpr ⟨proxied, target⟩)
      rw [nothing] at found
      cases found
  · obtain ⟨proxied, here⟩ := Candidate.uri?_eq_some.mp target
    refine ⟨rfl, rfl, ?_, ?_, ?_, ?_, ?_⟩
    · rw [here]
      exact .some ProxyUri.sameBehindLogin_carrying
    · intro direct
      rw [proxied] at direct
      cases direct
    · intro bare
      rw [here] at bare
      cases bare
    · intro other there nothing
      obtain rfl := Option.some.inj (here.symm.trans there)
      rw [found] at nothing
      cases nothing
    · intro other another _ there hit
      obtain rfl := Option.some.inj (here.symm.trans there)
      obtain rfl := Option.some.inj (found.symm.trans hit)
      exact ⟨_, rfl, ProxyUri.carries_carrying⟩

/-- A candidate fails to be associated where it spoils the decision. -/
theorem spoils_iff : table.Spoils candidate ↔ ∃ failure, table.attach candidate = .error failure := by
  constructor
  · rintro ⟨proxied, uri, target, some, file⟩
    obtain ⟨credential, found⟩ := Option.isSome_iff_exists.mp some
    exact ⟨_, attach_of_file (Candidate.uri?_eq_some.mpr ⟨proxied, target⟩) file found⟩
  · rintro ⟨failure, failed⟩
    obtain ⟨uri, credential, target, found, file, _⟩ := attach_eq_error.mp failed
    obtain ⟨proxied, here⟩ := Candidate.uri?_eq_some.mp target
    exact ⟨proxied, uri, here, Option.isSome_iff_exists.mpr ⟨credential, found⟩, file⟩

/-- **Association rewrites user information only.** The candidates of a decision stay in their
order, each as it was but for the user information of its proxy: that of a proxy for which the table
has a credential becomes this credential, whatever the script wrote there, and all else stays as it
is. What has been associated does not change when it is associated again. It fails just where a
candidate has a file for a proxy and the table has a credential for it; and a URI that cannot take
a credential is left as it was. -/
theorem associate_frame (table : CredentialTable) (candidates : List Candidate) :
    (∀ associated, table.associate candidates = .ok associated →
      List.Forall₂ table.Rewrites candidates associated ∧
        table.associate associated = .ok associated) ∧
    ((∃ failure, table.associate candidates = .error failure) ↔
      ∃ candidate ∈ candidates, table.Spoils candidate) ∧
    (∀ credential (uri left : ProxyUri) failure,
      ProxyUri.setCredential credential uri = .error failure left → left = uri) := by
  refine ⟨fun associated done => ⟨?_, ?_⟩, ?_, fun _ _ _ _ => ProxyUri.eq_of_setCredential_eq_error⟩
  · exact (Outcome.mapM_eq_ok.mp done).imp fun _ _ => rewrites_of_attach
  · refine Outcome.mapM_eq_ok.mpr ?_
    rw [List.forall₂_same]
    exact Outcome.forall_of_mapM (fun _ _ => attach_attach) done
  · rw [associate, Outcome.mapM_fails_iff]
    simp only [spoils_iff]

/-- So a login that a script writes gives way to the declared one, and a direct connection to the
same place is left alone. -/
theorem associate_frame_login :
    ∃ candidates associated,
      parseDecision "PROXY x:y@a:1/p; DIRECT http://a:1; PROXY b:1" = .ok candidates ∧
      associate ⟨[("a:1", ⟨"u", "p", by decide⟩)], by decide⟩ candidates = .ok associated ∧
      List.Forall₂ (Rewrites ⟨[("a:1", ⟨"u", "p", by decide⟩)], by decide⟩) candidates associated ∧
      associate ⟨[("a:1", ⟨"u", "p", by decide⟩)], by decide⟩ associated = .ok associated := by
  have succeeds : (parseDecision "PROXY x:y@a:1/p; DIRECT http://a:1; PROXY b:1" >>=
      associate ⟨[("a:1", ⟨"u", "p", by decide⟩)], by decide⟩).isOk = true := by
    decide +kernel
  obtain ⟨associated, both⟩ := Outcome.exists_eq_ok succeeds
  obtain ⟨candidates, read, done⟩ := Outcome.bind_eq_ok.mp both
  obtain ⟨rewritten, again⟩ := (associate_frame _ candidates).1 associated done
  exact ⟨candidates, associated, read, done, rewritten, again⟩

end CredentialTable

end ProxyAutoConfig
