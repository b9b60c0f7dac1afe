import ProxyAutoConfig.Proofs.Native.Serving
import ProxyAutoConfig.Proofs.Url.Written

/-!
# What a lookup hands to the script

A lookup that gets as far as the script calls the decision function once, with two texts: the text
of the URL as it was given, and the host. **The law**, `Session.decision_called`: the host is the
one that the URL shows, without the brackets of an IPv6 address, or an empty text where there is
none. There is one exception to it. An IPv6 address that stands for an IPv4 address is shown in
groups by the URL, and the script is given it in the dotted form.
-/

namespace ProxyAutoConfig

open ProxyAutoConfig.Script ProxyAutoConfig.Text ProxyAutoConfig.Net

/-! ## The call -/

namespace Engine

/-- What the global object has under the name of the decision function. -/
def decisionValue (m : Machine) : Value :=
  ((Eval.findProperty m.objects (Key.ofString decisionFunction) (m.objects.size + 1)
    Well.global).map Property.value).getD .undefined

/-- The function that a value is in a machine. -/
def codeIn (m : Machine) : Value → Option Code
  | .object q => (m.objects[q]?.getD default).code?
  | _ => none

/-- **The decision function**: what stands under its name, where that is a function. -/
def decisionFunction? (m : Machine) : Option Value :=
  if (codeIn m (decisionValue m)).isSome then some (decisionValue m) else none

/-- What a lookup makes of the value that the decision function gives. -/
def verdict (call : Caller) (v : Value) : Eval Verdict :=
  if v.isMissing then return .noValue else return .decision (← Eval.toText call v)

/-- What comes of a call of a function with the two texts of a lookup. -/
def answered (e : Engine) (w : World) (f : Value) (url host : String) : Outcome String :=
  let answer := do
    let v ← e.calls w (.apply f .undefined [.ofString url, .ofString host])
    verdict (e.calls w) v
  concluded (Eval.finish answer e.machine).1

variable {e : Engine} {w : World} {url host : String} {m : Machine} {call : Caller}

/-- The decision function is looked for without changing anything. -/
theorem get_decisionValue (m : Machine) :
    Eval.get Well.global (Key.ofString decisionFunction) m = .ok (decisionValue m) m := by
  have found : Eval.property? Well.global (Key.ofString decisionFunction) m =
      .ok (Eval.findProperty m.objects (Key.ofString decisionFunction) (m.objects.size + 1)
        Well.global) m := rfl
  rw [Eval.get, Outcome.bind_of_ok found, decisionValue]
  cases Eval.findProperty m.objects (Key.ofString decisionFunction) (m.objects.size + 1)
    Well.global <;> rfl

/-- So is what it does. -/
theorem code?_eq (v : Value) (m : Machine) : Eval.code? v m = .ok (codeIn m v) m := by
  cases v <;> rfl

/-- Without a decision function nothing is called. -/
theorem callDecision_of_none (missing : decisionFunction? m = none) :
    callDecision url host call m = .ok .undefined m := by
  have none_code : codeIn m (decisionValue m) = none := by
    rw [decisionFunction?, ite_eq_right_iff] at missing
    exact Option.not_isSome_iff_eq_none.mp fun some => Option.some_ne_none _ (missing some)
  rw [callDecision, Outcome.bind_of_ok (get_decisionValue m), Outcome.bind_of_ok (code?_eq _ m), none_code]
  rfl

/-- **The decision function is called with the URL and the host.** -/
theorem callDecision_of_some {f : Value} (found : decisionFunction? m = some f) :
    callDecision url host call m = (do
      let v ← call (.apply f .undefined [.ofString url, .ofString host])
      verdict call v) m := by
  rw [decisionFunction?, Option.ite_none_right_eq_some] at found
  obtain ⟨callable, same⟩ := found
  obtain rfl := Option.some.inj same
  obtain ⟨code, held⟩ := Option.isSome_iff_exists.mp callable
  rw [callDecision, Outcome.bind_of_ok (get_decisionValue m), Outcome.bind_of_ok (code?_eq _ m), held]
  rfl

/-- Without a decision function a lookup fails. -/
theorem decide_of_none (missing : decisionFunction? e.machine = none) :
    (e.decide w url host).1 = .error (.evaluation notDefined) := by
  rw [decide_eq, called, Eval.finish, callDecision_of_none missing]
  rfl

/-- **A lookup is the call of the decision function** with the URL and the host. -/
theorem decide_of_some {f : Value} (found : decisionFunction? e.machine = some f) :
    (e.decide w url host).1 = e.answered w f url host := by
  rw [decide_eq, called, answered, Eval.finish, Eval.finish, callDecision_of_some found]

end Engine

/-! ## The host -/

namespace Host

/-- The text of a host without brackets. -/
def unbracketed (text : String) : String :=
  String.ofList (text.toList.filter fun c => c != '[' && c != ']')

/-- A text in which no bracket stands. -/
theorem unbracketed_of_not_mem {text : String} (opening : '[' ∉ text.toList)
    (closing : ']' ∉ text.toList) : unbracketed text = text := by
  have plain : ∀ c ∈ text.toList, (c != '[' && c != ']') = true := by
    intro c mem
    rw [Bool.and_eq_true, bne_iff_ne, bne_iff_ne]
    refine ⟨?_, ?_⟩
    · rintro rfl
      exact opening mem
    · rintro rfl
      exact closing mem
  rw [unbracketed, List.filter_eq_self.mpr plain, String.ofList_toList]

/-- The text of an IPv6 address without its brackets. -/
theorem unbracketed_ipv6 (bits : Ipv6) :
    unbracketed (text (.ipv6 bits)) = String.ofList (Ipv6.text bits) := by
  have plain : ∀ c ∈ Ipv6.text bits, (c != '[' && c != ']') = true := by
    intro c mem
    rcases Ipv6.eq_colon_or_digit_of_mem_text mem with rfl | ⟨d, hd, rfl⟩
    · rfl
    · exact (by decide : ∀ d < 16, (d.digitChar != '[' && d.digitChar != ']') = true) d hd
  have front : ['['].filter (fun c => c != '[' && c != ']') = [] := rfl
  have back : [']'].filter (fun c => c != '[' && c != ']') = [] := rfl
  rw [unbracketed, text, String.toList_ofList, ← List.singleton_append, List.filter_append, List.filter_append, front, back,
    List.filter_eq_self.mpr plain, List.nil_append, List.append_nil]

/-- A domain, an IPv4 address and an empty host have no brackets. -/
theorem unbracketed_text {host : Host} (other : ∀ bits, host ≠ .ipv6 bits) :
    unbracketed host.text = host.text := by
  cases host with
  | empty => rfl
  | named name isName =>
    exact unbracketed_of_not_mem (not_mem_name isName (by decide)) (not_mem_name isName (by decide))
  | ipv4 bits =>
    have plain := IsPlainText.address bits
    rw [text]
    refine unbracketed_of_not_mem ?_ ?_
    · rw [String.toList_ofList]
      exact plain.not_mem (by decide)
    · rw [String.toList_ofList]
      exact plain.not_mem (by decide)
  | ipv6 bits => exact absurd rfl (other bits)

end Host

/-- A dotted form is no address in groups. -/
theorem Net.Ipv6.mixedText_ne_text {bits : Ipv6} {low : Ipv4} (embedded : embedded? bits = some low) :
    mixedText bits ≠ text bits := by
  have dot : '.' ∈ mixedText bits := by
    rw [mixedText, embedded]
    refine List.mem_append_right _ ?_
    simp [Ipv4.text, Ipv4.octets]
  intro same
  rcases ProxyAutoConfig.Ipv6.eq_colon_or_digit_of_mem_text (same ▸ dot) with colon | ⟨d, hd, digit⟩
  · cases colon
  · exact (by decide : ∀ d < 16, '.' ≠ d.digitChar) d hd digit

namespace Session

/-- **An IPv6 address that stands for an IPv4 address** is the host of the URL. -/
def HostsEmbedded (url : Url) (low : Ipv4) : Prop :=
  ∃ bits, url.host = some (.ipv6 bits) ∧ Ipv6.embedded? bits = some low

/-- Such an address is written in the dotted form. -/
theorem scriptHost_of_hostsEmbedded {url : Url} {low : Ipv4} (embedded : HostsEmbedded url low) :
    scriptHost url = "::ffff:" ++ String.ofList (Ipv4.text low) := by
  obtain ⟨bits, host, stands⟩ := embedded
  simp only [scriptHost, host, Ipv6.mixedText, stands]
  rw [String.ofList_append]

/-- A URL with another host shows it as the script is given it. -/
theorem scriptHost_of_not_ipv6 {url : Url} (other : ∀ bits, url.host ≠ some (.ipv6 bits)) :
    scriptHost url = Host.unbracketed (url.hostText?.getD "") := by
  rw [scriptHost, Url.hostText?]
  cases host : url.host with
  | none => rfl
  | some h =>
    have plain : Host.unbracketed h.text = h.text :=
      Host.unbracketed_text fun bits same => other bits (same ▸ host)
    cases h with
    | empty => rfl
    | named name isName => exact plain.symm
    | ipv4 bits => exact plain.symm
    | ipv6 bits => exact absurd host (other bits)

/-- **The host that a script is given is the one that the URL shows**, without brackets, unless it
is an IPv6 address that stands for an IPv4 address. -/
theorem scriptHost_eq_iff (url : Url) :
    scriptHost url = Host.unbracketed (url.hostText?.getD "") ↔ ¬ ∃ low, HostsEmbedded url low := by
  by_cases address : ∃ bits, url.host = some (.ipv6 bits)
  · obtain ⟨bits, host⟩ := address
    have given : scriptHost url = String.ofList (Ipv6.mixedText bits) := by rw [scriptHost, host]
    have shown : Host.unbracketed (url.hostText?.getD "") = String.ofList (Ipv6.text bits) := by
      rw [Url.hostText?_eq_some host nofun, Option.getD_some, Host.unbracketed_ipv6]
    rw [given, shown, String.ofList_inj]
    cases stands : Ipv6.embedded? bits with
    | none =>
      refine iff_of_true (by rw [Ipv6.mixedText, stands]) ?_
      rintro ⟨low, other, host', embedded⟩
      cases host.symm.trans host'
      rw [stands] at embedded
      cases embedded
    | some low =>
      exact iff_of_false (Ipv6.mixedText_ne_text stands) fun none => none ⟨low, bits, host, stands⟩
  · have other : ∀ bits, url.host ≠ some (.ipv6 bits) := fun bits host => address ⟨bits, host⟩
    refine iff_of_true (scriptHost_of_not_ipv6 other) ?_
    rintro ⟨low, bits, host, -⟩
    exact other bits host

variable (s : Session) (w : World) {url : String} {parsed : Url}

/-- **A lookup calls the decision function with the URL as it was given, and with its host.** Where
there is no such function, it fails; a function of a script runs with these two texts for its
arguments. The host is the one that the URL shows, without brackets, and an empty text for none, but
for an IPv6 address that stands for an IPv4 address: the URL shows it in groups, and the script is
given the dotted form. -/
theorem decision_called (read : Url.parse url = .ok parsed) :
    (Engine.decisionFunction? s.engine.machine = none →
      (s.use (decision w url)).1 = .error (.evaluation notDefined)) ∧
    (∀ f, Engine.decisionFunction? s.engine.machine = some f →
      (s.use (decision w url)).1 = s.engine.answered w f url (scriptHost parsed)) ∧
    (∀ q o f scope own, s.engine.Ready → s.engine.machine.objects[q]? = some o →
      o.code? = some (.script f scope own) →
        s.engine.calls w (.apply (.object q) .undefined
          [.ofString url, .ofString (scriptHost parsed)]) s.engine.machine =
        Eval.nested (Eval.runFunction (s.engine.surroundings w (s.engine.machine.depth + 1)) f scope
          (if f.info.arrow then own else .object Well.global)
          [.ofString url, .ofString (scriptHost parsed)]) s.engine.machine) ∧
    (scriptHost parsed = Host.unbracketed (parsed.hostText?.getD "") ↔
      ¬ ∃ low, HostsEmbedded parsed low) ∧
    ∀ low, HostsEmbedded parsed low →
      scriptHost parsed = "::ffff:" ++ String.ofList (Ipv4.text low) := by
  rw [use_decision_of_ok s w read]
  exact ⟨Engine.decide_of_none, fun _ => Engine.decide_of_some,
    fun _ _ _ _ _ ready there held => Engine.calls_eq ready there held w _,
    scriptHost_eq_iff parsed, fun _ => scriptHost_of_hostsEmbedded⟩

/-- Open a session whose script decides the host that it is given. -/
def openedTelling : Outcome Session :=
  (Session.open (.ofFiles []) (World.isolated 0 0) { Options.standard with natives := [] }
    "function FindProxyForURL(url, host) \x7b return host; \x7d").record.1

/-- So an address in brackets is given without them. -/
theorem decision_called_brackets : ∃ s parsed f, openedTelling = .ok s ∧
    Url.parse "http://[::1]/" = .ok parsed ∧ parsed.hostText? = some "[::1]" ∧
    Engine.decisionFunction? s.engine.machine = some f ∧
    s.engine.answered (World.isolated 0 0) f "http://[::1]/" (scriptHost parsed) = .ok "::1" ∧
    scriptHost parsed = Host.unbracketed (parsed.hostText?.getD "") := by
  obtain ⟨parsed, read, shown, host⟩ : ∃ parsed, Url.parse "http://[::1]/" = .ok parsed ∧
      parsed.hostText? = some "[::1]" ∧ parsed.host = some (.ipv6 1) := ⟨_, rfl, rfl, rfl⟩
  have plain : ¬ ∃ low, HostsEmbedded parsed low := by
    rintro ⟨low, bits, here, stands⟩
    cases host.symm.trans here
    cases stands
  have runs : openedTelling.map (fun s =>
      (s.use (decision (World.isolated 0 0) "http://[::1]/")).1) = .ok (.ok "::1") := by
    decide +kernel
  obtain ⟨s, opened, decided⟩ := Outcome.map_eq_ok.mp runs
  obtain ⟨missing, found, -, same, -⟩ := decision_called s (World.isolated 0 0) read
  cases function : Engine.decisionFunction? s.engine.machine with
  | none => rw [missing function] at decided; cases decided
  | some f =>
    exact ⟨s, parsed, f, opened, read, shown, function, (found f function).symm.trans decided,
      same.mpr plain⟩

/-- **An address that stands for an IPv4 address is not given as the URL shows it.** -/
theorem decision_called_dotted : ∃ s parsed, openedTelling = .ok s ∧
    Url.parse "http://[::ffff:1.2.3.4]/" = .ok parsed ∧
    parsed.hostText? = some "[::ffff:102:304]" ∧
    (s.use (decision (World.isolated 0 0) "http://[::ffff:1.2.3.4]/")).1 =
      .ok "::ffff:1.2.3.4" := by
  obtain ⟨parsed, read, shown⟩ : ∃ parsed, Url.parse "http://[::ffff:1.2.3.4]/" = .ok parsed ∧
      parsed.hostText? = some "[::ffff:102:304]" := ⟨_, rfl, rfl⟩
  have runs : openedTelling.map (fun s =>
      (s.use (decision (World.isolated 0 0) "http://[::ffff:1.2.3.4]/")).1) =
      .ok (.ok "::ffff:1.2.3.4") := by
    decide +kernel
  obtain ⟨s, opened, decided⟩ := Outcome.map_eq_ok.mp runs
  exact ⟨s, parsed, opened, read, shown, decided⟩

end Session

end ProxyAutoConfig
