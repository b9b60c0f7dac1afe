import ProxyAutoConfig.Source.Load

/-!
# What a download leaves behind

A download step by step: it announces itself and the credential that it sends, asks, and reports
what has come of the answer (`download_eq`). All that it shows of the specifier is its redacted
text, and all that it shows of the credential is its user name and the length of its password
(`reported_of_download`); this is so whatever the specifier, the credential and the answer are.
-/

namespace ProxyAutoConfig.Source

open ProxyAutoConfig.Text

/-! ## Web addresses -/

/-- A web address begins with its scheme. -/
theorem exists_scheme_of_remote {specifier : String}
    (remote : Origin.ofSpecifier specifier = .remote) :
    ∃ scheme ∈ ["http", "https"], ∃ rest, specifier.toList = scheme.toList ++ ':' :: rest := by
  rw [Origin.ofSpecifier] at remote
  split at remote
  · next front =>
    rcases Bool.or_eq_true_iff.mp front with http | https
    · obtain ⟨rest, whole⟩ := List.isPrefixOf_iff_prefix.mp http
      exact ⟨"http", List.mem_cons_self, '/' :: '/' :: rest, whole.symm⟩
    · obtain ⟨rest, whole⟩ := List.isPrefixOf_iff_prefix.mp https
      exact ⟨"https", List.mem_cons_of_mem _ List.mem_cons_self, '/' :: '/' :: rest, whole.symm⟩
  · split at remote <;> cases remote

/-- So it is not blank. -/
theorem isAllBlank_of_remote {specifier : String}
    (remote : Origin.ofSpecifier specifier = .remote) : isAllBlank specifier.toList = false := by
  obtain ⟨scheme, _, rest, whole⟩ := exists_scheme_of_remote remote
  refine List.all_eq_false.mpr ⟨':', ?_, by decide⟩
  rw [whole]
  exact List.mem_append_right _ List.mem_cons_self

/-! ## Downloads -/

/-- The credential that is sent: the one of the environment, or else the one in the URL. -/
def sent (override : Option Credential) (url : Url) : Option Credential :=
  override.or url.credential?

/-- The request of a download. -/
def requestFor (override : Option Credential) (url : Url) : Request :=
  ⟨url.withoutUserinfo.withoutFragment.text, (sent override url).map Credential.header⟩

/-- The journal in which a download has announced itself. -/
def announced (shown : String) (credential : Option Credential) (j : Journal) : Journal :=
  let started := j.addCaller .info "Downloading PAC script" [("url", shown)]
  match credential with
  | some c =>
    started.addCaller .debug "Attaching basic auth to PAC request" [("credential", c.shown)]
  | none => started

/-- What comes of an answer. -/
def received (shown : String) (reply : Reply) (j : Journal) :
    EStateM.Result Failure Journal String :=
  if reply.status = 200 then
    let content := Utf8.decodeLossy reply.body
    .ok (String.ofList content)
      (j.addCaller .info "PAC script downloaded" [("url", shown), ("bytes", byteCount content)])
  else
    .error (.fetchStatus shown (knownStatus reply.status))
      (j.addCaller .error "PAC download failed"
        [("url", shown), ("status", toString reply.status)])

/-- **The user information of a download is read as that of a proxy is**: a user name that is empty
makes no credential in either case. -/
theorem embedded?_eq (url : Url) : embedded? url = url.credential? := by
  unfold embedded? Url.credential?
  cases url.password with
  | none => rfl
  | some password =>
    simp only [Option.bind_some]
    split
    · next empty =>
      have nobody : Url.decodePart? url.username = some "" := by
        rw [String.isEmpty_iff.mp empty]
        rfl
      rw [nobody]
      cases Url.decodePart? password <;> rfl
    · cases Url.decodePart? url.username <;> cases Url.decodePart? password <;> rfl

variable {supply : Supply} {override : Option Credential} {specifier : String} {j : Journal}

/-- **A download announces itself, asks, and reports what has come of the answer.** -/
theorem download_eq : download supply override specifier j =
    match Url.parse specifier with
    | .error flaw => .error (refusedUrl specifier flaw.message) j
    | .ok url =>
      let asked := (announced (Redaction.uriText specifier) (sent override url) j).addDownload
        (supply.attempt (requestFor override url))
      match supply.reply (requestFor override url) with
      | none => .error (.fetch (Redaction.uriText specifier)) asked
      | some reply => received (Redaction.uriText specifier) reply asked := by
  unfold download send
  cases Url.parse specifier with
  | error flaw => rfl
  | ok url =>
    unfold requestFor sent
    simp only [embedded?_eq, bind_assoc, pure_bind]
    generalize override.or url.credential? = credential
    generalize supply.attempt _ = attempt
    generalize supply.reply _ = answer
    cases answer with
    | none => cases credential <;> rfl
    | some reply =>
      unfold received
      by_cases success : reply.status = 200
      · simp only [if_pos success]
        cases credential <;> rfl
      · simp only [if_neg success]
        cases credential <;> rfl

/-! ## What is shown -/

/-- **An event of a download**: it shows the redacted specifier, a credential with its password
hidden, and numbers. -/
inductive Reported (shown : String) (credential : Option Credential) : Log.Event → Prop
  | started : Reported shown credential ⟨.info, "Downloading PAC script", [("url", shown)]⟩
  | attaching {c : Credential} : c ∈ credential → Reported shown credential
      ⟨.debug, "Attaching basic auth to PAC request", [("credential", c.shown)]⟩
  | downloaded (bytes : Nat) : Reported shown credential
      ⟨.info, "PAC script downloaded", [("url", shown), ("bytes", toString bytes)]⟩
  | failed (status : Nat) : Reported shown credential
      ⟨.error, "PAC download failed", [("url", shown), ("status", toString status)]⟩

/-- **A failure to load a script from the web**: it shows the redacted specifier, or nothing of
it. -/
inductive Refused (shown : String) : Failure → Prop
  | unreadable (flaw : Url.Flaw) : Refused shown (.invalidUrl shown flaw.message)
  | unanswered : Refused shown (.fetch shown)
  | status (status : Nat) : Refused shown (.fetchStatus shown status)
  | empty : Refused shown (.invalidContent "content is empty")
  | undefined : Refused shown (.invalidContent notDefined)

/-- A journal in which nothing but a download has been reported. -/
structure Reports (shown : String) (credential : Option Credential) (journal : Journal) : Prop where
  caller : ∀ event ∈ journal.caller, Reported shown credential event
  engine : journal.engine = []

/-- **A step ends discreetly**: whatever comes of it, the journal has reports of a download and
nothing else, a failure shows no more than they do, and a result satisfies `post`. -/
inductive Ends {α : Type} (shown : String) (credential : Option Credential) (post : α → Prop) :
    EStateM.Result Failure Journal α → Prop
  | ok {a : α} {journal : Journal} : post a → Reports shown credential journal →
      Ends shown credential post (.ok a journal)
  | error {failure : Failure} {journal : Journal} : Refused shown failure →
      Reports shown credential journal → Ends shown credential post (.error failure journal)

variable {shown : String} {credential : Option Credential}

/-- One step after another. -/
theorem Ends.bind {α β : Type} {post : α → Prop} {post' : β → Prop} {x : Recorded α}
    {f : α → Recorded β} (first : Ends shown credential post (x j))
    (next : ∀ a journal, post a → Reports shown credential journal →
      Ends shown credential post' (f a journal)) :
    Ends shown credential post' ((x >>= f) j) := by
  show Ends shown credential post' (EStateM.bind x f j)
  rw [EStateM.bind]
  cases hx : x j <;> rw [hx] at first <;> cases first
  · next satisfied reports => exact next _ _ satisfied reports
  · next refused reports => exact .error refused reports

/-- A journal with another report has nothing but reports. -/
theorem Reports.addCaller (reports : Reports shown credential j) {level : Log.Level}
    {message : String} {fields : List (String × String)}
    (last : Reported shown credential ⟨level, message, fields⟩) :
    Reports shown credential (j.addCaller level message fields) := by
  refine ⟨fun event mem => ?_, reports.engine⟩
  rcases List.mem_append.mp mem with before | added
  · exact reports.caller event before
  · obtain rfl := List.mem_singleton.mp added
    exact last

/-- And so it is when a download has been noted. -/
theorem Reports.addDownload (reports : Reports shown credential j) (d : Download) :
    Reports shown credential (j.addDownload d) :=
  ⟨reports.caller, reports.engine⟩

/-- An announcement is a report. -/
theorem Reports.announced (reports : Reports shown credential j) :
    Reports shown credential (announced shown credential j) := by
  cases credential with
  | none => exact reports.addCaller .started
  | some c => exact (reports.addCaller .started).addCaller (.attaching rfl)

/-- So is what is said of an answer. -/
theorem ends_received (reports : Reports shown credential j) (reply : Reply) :
    Ends shown credential (fun _ => True) (received shown reply j) := by
  unfold received
  split
  · exact .ok trivial (reports.addCaller (.downloaded _))
  · exact .error (.status _) (reports.addCaller (.failed _))

/-- The credential that the download of a specifier sends. -/
def credentialOf (override : Option Credential) (specifier : String) : Option Credential :=
  match Url.parse specifier with
  | .ok url => sent override url
  | .error _ => none

/-- **A download ends discreetly.** -/
theorem ends_download (silent : j.caller = [] ∧ j.engine = []) :
    Ends (Redaction.uriText specifier) (credentialOf override specifier) (fun _ => True)
      (download supply override specifier j) := by
  have nothing : ∀ credential, Reports (Redaction.uriText specifier) credential j :=
    fun _ => ⟨silent.1 ▸ List.forall_mem_nil _, silent.2⟩
  rw [download_eq, credentialOf]
  cases Url.parse specifier with
  | error flaw => exact .error (.unreadable flaw) (nothing _)
  | ok url =>
    have asked := (nothing (sent override url)).announced.addDownload
      (supply.attempt (requestFor override url))
    simp only
    cases supply.reply (requestFor override url) with
    | none => exact .error .unanswered asked
    | some reply => exact ends_received asked reply

/-- Content is looked at without a word about where it comes from. -/
theorem ends_checkContent (reports : Reports shown credential j) (content : String) :
    Ends shown credential (fun _ => True) (Recorded.ofOutcome (checkContent content) j) := by
  rw [checkContent]
  split
  · exact .error .empty reports
  · split
    · exact .error .undefined reports
    · exact .ok trivial reports

/-- **Loading a script from the web ends discreetly**, and the script is called by the redacted
specifier. -/
theorem ends_load (remote : Origin.ofSpecifier specifier = .remote)
    (silent : j.caller = [] ∧ j.engine = []) :
    Ends (Redaction.uriText specifier) (credentialOf override specifier)
      (fun loaded => loaded.label = Redaction.uriText specifier)
      (load supply override specifier j) := by
  unfold load
  rw [remote]
  refine (ends_download silent).bind fun content journal _ reports => ?_
  exact (ends_checkContent reports content).bind fun _ _ _ reports => .ok rfl reports

end ProxyAutoConfig.Source
