import ProxyAutoConfig.Proofs.Secrecy.Address
import ProxyAutoConfig.Proofs.Source.Download

/-!
# Loading side by side

A script is loaded twice, by specifiers and with credentials that look alike, from places that
answer alike. What is loaded is the same then, by the same name, or the two runs fail in the same
way; and they leave the same events. The requests ask for one URL, with headers that are made from
credentials that look alike.

What the journals say of credentials that a session lists is compared by a relation of its own (`T`),
and so are downloads (`D`).
-/

namespace ProxyAutoConfig

open ProxyAutoConfig.Text

/-! ## Journals -/

/-- **Requests that look alike**: for one URL, with headers from credentials that look alike, or
without any. -/
structure Request.Alike (r s : Request) : Prop where
  url : r.url = s.url
  authorization : Option.Rel
    (fun h k => ∃ c d : Credential, c.Alike d ∧ h = c.header ∧ k = d.header)
    r.authorization s.authorization

/-- **Downloads that look alike**: requests that look alike, one after the other, and an answer to
both or to neither. -/
structure Download.Alike (d e : Download) : Prop where
  request : d.request.Alike e.request
  onward : List.Forall₂ Request.Alike d.onward e.onward
  answered : d.answered = e.answered

/-- **Events that look alike**: one event, or a session that is ready in both runs and says so of
credentials in texts of which `T` holds. -/
inductive Log.Event.Alike (T : String → String → Prop) : Log.Event → Log.Event → Prop
  | same (event : Log.Event) : Alike T event event
  | ready (source : String) {listed listed' : String} : T listed listed' →
      Alike T ⟨.debug, "PAC session ready", [("source", source), ("credentials", listed)]⟩
        ⟨.debug, "PAC session ready", [("source", source), ("credentials", listed')]⟩

/-- **Journals that look alike**: events that look alike, and downloads of which `D` holds. -/
structure Journal.Alike (T : String → String → Prop) (D : Download → Download → Prop)
    (j k : Journal) : Prop where
  caller : List.Forall₂ (Log.Event.Alike T) j.caller k.caller
  engine : j.engine = k.engine
  downloads : List.Forall₂ D j.downloads k.downloads

variable {T : String → String → Prop} {D : Download → Download → Prop}

namespace Journal.Alike

variable {j k : Journal} {level : Log.Level} {message : String} {fields : List (String × String)}

theorem empty : Journal.empty.Alike T D Journal.empty :=
  ⟨.nil, rfl, .nil⟩

/-- Journals stay alike when one event is added to both. -/
theorem addCaller (alike : j.Alike T D k) :
    (j.addCaller level message fields).Alike T D (k.addCaller level message fields) :=
  ⟨List.rel_append alike.caller (.cons (.same _) .nil), alike.engine, alike.downloads⟩

/-- So they do when a session is said to be ready. -/
theorem addReady (alike : j.Alike T D k) (source : String) {listed listed' : String}
    (texts : T listed listed') :
    (j.addCaller .debug "PAC session ready"
      [("source", source), ("credentials", listed)]).Alike T D
      (k.addCaller .debug "PAC session ready" [("source", source), ("credentials", listed')]) :=
  ⟨List.rel_append alike.caller (.cons (.ready source texts) .nil), alike.engine,
    alike.downloads⟩

theorem addEngine (alike : j.Alike T D k) :
    (j.addEngine level message fields).Alike T D (k.addEngine level message fields) :=
  ⟨alike.caller, congrArg (· ++ [(⟨level, message, fields⟩ : Log.Event)]) alike.engine,
    alike.downloads⟩

theorem addDownload (alike : j.Alike T D k) {d e : Download} (downloads : D d e) :
    (j.addDownload d).Alike T D (k.addDownload e) :=
  ⟨alike.caller, alike.engine, List.rel_append alike.downloads (.cons downloads .nil)⟩

end Journal.Alike

/-- One event is reported in both runs. -/
theorem Paired.report (level : Log.Level) (message : String) (fields : List (String × String)) :
    Paired (Journal.Alike T D) (fun _ _ => True) (Recorded.report level message fields)
      (Recorded.report level message fields) :=
  Paired.modify fun _ _ alike => alike.addCaller

namespace Source

/-! ## Downloads -/

/-- The request that the download of a specifier makes, if the specifier is a URL. -/
def requestOf? (override : Option Credential) (specifier : String) : Option Request :=
  match Url.parse specifier with
  | .ok url => some (requestFor override url)
  | .error _ => none

/-- **Two places answer alike**: to each request of two, each answers what the other does to the
other one, and both have the same files. -/
structure Supply.Agree (supply supply' : Supply) (request request' : Option Request) : Prop where
  reply : ∀ r ∈ request, ∀ r' ∈ request', supply.reply r = supply'.reply r'
  file : supply.file = supply'.file

/-- **Two places lead on alike**: they answer alike, and behind each of the two requests the client
sends requests that look like those behind the other one. -/
structure Supply.LeadAlike (supply supply' : Supply) (request request' : Option Request) : Prop
    extends supply.Agree supply' request request' where
  onward : ∀ r ∈ request, ∀ r' ∈ request',
    List.Forall₂ Request.Alike (supply.onward r) (supply'.onward r')

variable {supply supply' : Supply} {override override' : Option Credential}
  {specifier specifier' : String}

/-- URLs that look alike are asked for with credentials that look alike. -/
theorem sent_alike (overrides : Option.Rel Credential.Alike override override') {url url' : Url}
    (urls : url.Alike url') :
    Option.Rel Credential.Alike (sent override url) (sent override' url') := by
  unfold sent
  cases overrides with
  | some credentials => exact .some credentials
  | none => exact urls.credential?

/-- So the requests look alike. -/
theorem requestFor_alike (overrides : Option.Rel Credential.Alike override override')
    {url url' : Url} (urls : url.Alike url') :
    (requestFor override url).Alike (requestFor override' url') := by
  have credentials := sent_alike overrides urls
  refine ⟨?_, ?_⟩
  · show url.withoutUserinfo.withoutFragment.text = url'.withoutUserinfo.withoutFragment.text
    rw [urls.withoutUserinfo_eq]
  · show Option.Rel _ ((sent override url).map Credential.header)
      ((sent override' url').map Credential.header)
    generalize sent override url = c, sent override' url' = d at credentials
    cases credentials with
    | none => exact .none
    | some alike => exact .some ⟨_, _, alike, rfl, rfl⟩

/-- So the downloads look alike where they lead on alike. -/
theorem attempt_alike (texts : Url.LoginAlike specifier specifier')
    (overrides : Option.Rel Credential.Alike override override')
    (lead : supply.LeadAlike supply' (requestOf? override specifier)
      (requestOf? override' specifier')) :
    ∀ r ∈ requestOf? override specifier, ∀ r' ∈ requestOf? override' specifier',
      (supply.attempt r).Alike (supply'.attempt r') := by
  intro r mem r' mem'
  refine ⟨?_, lead.onward r mem r' mem', congrArg Option.isSome (lead.reply r mem r' mem')⟩
  have read := Url.parse_alike texts
  unfold requestOf? at mem mem'
  generalize Url.parse specifier = x, Url.parse specifier' = y at read mem mem'
  cases read with
  | error flaw => cases mem
  | ok urls =>
    cases mem
    cases mem'
    exact requestFor_alike overrides urls

/-- A download announces itself in the same way. -/
theorem announced_alike (shown : String) {c d : Option Credential}
    (credentials : Option.Rel Credential.Alike c d) {j k : Journal} (alike : j.Alike T D k) :
    (announced shown c j).Alike T D (announced shown d k) := by
  cases credentials with
  | none => exact alike.addCaller
  | some credentials =>
    unfold announced
    simp only [credentials.shown_eq]
    exact alike.addCaller.addCaller

/-- One answer is reported in the same way. -/
theorem received_alike (shown : String) (reply : Reply) {j k : Journal} (alike : j.Alike T D k) :
    Stand (Journal.Alike T D) Eq (received shown reply j) (received shown reply k) := by
  unfold received
  split
  · exact .ok rfl alike.addCaller
  · exact .error _ alike.addCaller

/-- **Downloads go on alike.** -/
theorem download_alike (texts : Url.LoginAlike specifier specifier')
    (overrides : Option.Rel Credential.Alike override override')
    (agree : supply.Agree supply' (requestOf? override specifier)
      (requestOf? override' specifier'))
    (downloads : ∀ r ∈ requestOf? override specifier, ∀ r' ∈ requestOf? override' specifier',
      D (supply.attempt r) (supply'.attempt r')) :
    Paired (Journal.Alike T D) Eq (download supply override specifier)
      (download supply' override' specifier') := by
  intro j k alike
  have read := Url.parse_alike texts
  have answers := agree.reply
  unfold requestOf? at answers downloads
  rw [download_eq, download_eq, texts.uriText_eq]
  generalize Url.parse specifier = x, Url.parse specifier' = y at read answers downloads
  cases read with
  | error flaw =>
    have refused : refusedUrl specifier flaw.message = refusedUrl specifier' flaw.message := by
      rw [refusedUrl, refusedUrl, texts.uriText_eq]
    simp only [refused]
    exact .error _ alike
  | @ok url url' urls =>
    have announced := announced_alike (Redaction.uriText specifier') (sent_alike overrides urls) alike
    have asked := announced.addDownload (downloads _ rfl _ rfl)
    simp only
    rw [answers _ rfl _ rfl]
    cases supply'.reply (requestFor override' url') with
    | none => exact .error _ asked
    | some reply => exact received_alike _ reply asked

/-! ## All specifiers -/

/-- **Specifiers that look alike**: one specifier, or two web addresses that differ in the password
of a login alone. -/
structure SpecifierAlike (specifier specifier' : String) : Prop where
  text : Url.LoginAlike specifier specifier'
  remote : specifier ≠ specifier' →
    Origin.ofSpecifier specifier = .remote ∧ Origin.ofSpecifier specifier' = .remote

/-- They name places of one sort. -/
theorem SpecifierAlike.origin_eq (alike : SpecifierAlike specifier specifier') :
    Origin.ofSpecifier specifier = Origin.ofSpecifier specifier' := by
  by_cases same : specifier = specifier'
  · rw [same]
  · obtain ⟨here, there⟩ := alike.remote same
    rw [here, there]

/-- One file is read alike. -/
theorem readFile_alike (files : supply.file = supply'.file) (specifier : String) :
    Paired (Journal.Alike T D) Eq (readFile supply specifier) (readFile supply' specifier) := by
  unfold readFile
  rw [files]
  refine (Paired.ofOutcome (Outcome.Alike.refl (fun _ => rfl) (filePath specifier))).bind ?_
  rintro path _ rfl
  cases (supply'.file path).map Utf8.decode with
  | none => exact Paired.throw _
  | some content =>
    cases content with
    | error flaw => exact Paired.throw _
    | ok content => exact (Paired.report _ _ _).bind fun _ _ _ => Paired.pure rfl

/-- Content is looked at alike. -/
theorem checkContent_alike (loaded : Loaded) :
    Paired (Journal.Alike T D) Eq
      (do Recorded.ofOutcome (checkContent loaded.content); return loaded)
      (do Recorded.ofOutcome (checkContent loaded.content); return loaded) :=
  (Paired.ofOutcome (Outcome.Alike.refl (fun _ => rfl) _)).bind fun _ _ _ => Paired.pure rfl

/-- **Scripts are loaded alike**: under one name, with one content. -/
theorem load_alike (specifiers : SpecifierAlike specifier specifier')
    (overrides : Option.Rel Credential.Alike override override')
    (agree : supply.Agree supply' (requestOf? override specifier)
      (requestOf? override' specifier'))
    (downloads : ∀ r ∈ requestOf? override specifier, ∀ r' ∈ requestOf? override' specifier',
      D (supply.attempt r) (supply'.attempt r')) :
    Paired (Journal.Alike T D) Eq (load supply override specifier)
      (load supply' override' specifier') := by
  have same : Origin.ofSpecifier specifier' ≠ .remote → specifier = specifier' := by
    intro elsewhere
    by_contra other
    exact elsewhere (specifiers.remote other).2
  unfold load
  rw [specifiers.origin_eq]
  cases origin : Origin.ofSpecifier specifier' with
  | remote =>
    refine (download_alike specifiers.text overrides agree downloads).bind ?_
    rintro content _ rfl
    rw [specifiers.text.uriText_eq]
    exact checkContent_alike ⟨Redaction.uriText specifier', content⟩
  | text =>
    obtain rfl := same (by rw [origin]; decide)
    exact checkContent_alike ⟨"text", specifier⟩
  | file =>
    obtain rfl := same (by rw [origin]; decide)
    refine (readFile_alike agree.file specifier).bind ?_
    rintro loaded _ rfl
    exact checkContent_alike loaded

end Source

end ProxyAutoConfig
