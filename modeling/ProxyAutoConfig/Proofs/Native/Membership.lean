import ProxyAutoConfig.Proofs.Native.Subnet

/-!
# Hosts and networks

Scripts have two tests whether a host lies in a network. The function of the library takes the host and
the network as four numbers each (`isInNet`), the host function takes an address and a length
(`isInNetEx`).

**The law** (`Engine.isInNet_iff_isInNetEx`): the two agree, on the address that is found for the host,
wherever the host is the text of an address or is not four runs of digits.

For other hosts they differ. Four runs of digits are an address to the library, and a run above 255 counts
as its lowest eight bits: so a host that has no address lies in the networks of another one
(`Engine.isInNet_of_unresolved`).
-/

namespace ProxyAutoConfig

open ProxyAutoConfig.Net ProxyAutoConfig.Script ProxyAutoConfig.Text Eval

/-! ## The address of a host -/

namespace HostFunction

/-- **The address of an address** is the address. -/
theorem dnsResolve_text (w : World) (a : Ipv4) :
    dnsResolve w (String.ofList (Ipv4.text a)) = some (String.ofList (Ipv4.text a)) := by
  simp only [dnsResolve, World.resolve, String.toList_ofList, Address.parse?_text]
  rfl

/-- What is found for a host is the text of an address. -/
theorem exists_of_dnsResolve {w : World} {host address : String}
    (found : dnsResolve w host = some address) : ∃ a, address = String.ofList (Ipv4.text a) := by
  obtain ⟨a, first, rfl⟩ := Option.map_eq_some_iff.mp found
  have isV4 := List.find?_some first
  cases a with
  | v4 bits => exact ⟨bits, rfl⟩
  | v6 bits => cases isV4

/-- **A network holds the addresses that agree with it** in its leading bits. -/
theorem isInNetEx_written (a base : Ipv4) {length : Nat} (small : length ≤ 32) :
    isInNetEx (String.ofList (Ipv4.text a)) (String.ofList (Network.written base length)) =
      (a &&& Network.mask 32 length == base &&& Network.mask 32 length) := by
  have network := Network.parse?_written base (Nat.lt_of_le_of_lt small (by decide))
  simp only [isInNetEx, Address.liesIn, String.toList_ofList, Address.parse?_text, network,
    Network.holds, Network.agree, small, decide_true, Bool.true_and]

end HostFunction

namespace Library

variable {w : World} {u : Units}

/-- Four runs of digits are taken for an address, -/
theorem reached?_of_isDotted (dotted : IsDotted u) : reached? w u = some u :=
  if_pos ((isSome_find?_iff u).mpr dotted)

/-- and of everything else the address is asked for. -/
theorem reached?_of_not_isDotted (undotted : ¬ IsDotted u) :
    reached? w u = (HostFunction.dnsResolve w (Units.toEscapedString u)).map Units.ofString :=
  if_neg (mt (isSome_find?_iff u).mp undotted)

/-- **A host that is the text of an address, or is not four runs of digits**: its address is what is
found for it. -/
theorem reached?_eq_dnsResolve
    (host : (∃ cs, u = Units.ofChars cs ∧ (Ipv4.parse? cs).isSome) ∨ ¬ IsDotted u) :
    reached? w u = (HostFunction.dnsResolve w (Units.toEscapedString u)).map Units.ofString := by
  rcases host with ⟨cs, rfl, read⟩ | undotted
  · obtain ⟨a, read⟩ := Option.isSome_iff_exists.mp read
    obtain rfl := Ipv4.eq_text_of_parse? read
    rw [Units.toEscapedString, Units.escaped_ofChars, HostFunction.dnsResolve_text, Option.map_some,
      Units.ofString, String.toList_ofList]
    exact reached?_of_isDotted (isDotted_addressText a)
  · exact reached?_of_not_isDotted undotted

end Library

/-! ## Asked from outside -/

namespace Engine

/-- **Call a function that scripts see**, by its name. -/
def ask (e : Engine) (w : World) (name : String) (arguments : List Value) :
    Except Fault Value × Engine :=
  e.run w fun call => do
    call (.apply (← lookup globalScope (Units.ofString name)) .undefined arguments)

variable {e : Engine} (furnished : e.Furnished) (w : World)
include furnished

section

variable {name : String} {arguments : List Value} {v : Value}
  (answers : ∀ levels, e.machine.Answers (Library.around w e.limits.rounds (levels + 3)).call
    (Units.ofString name) arguments v)
include answers

/-- **What a function answers is what comes of asking**, and everything stays in its place. -/
theorem exists_ask_eq : ∃ later, e.ask w name arguments = (.ok v, later) ∧ later.Furnished := by
  obtain ⟨levels, enough⟩ := Nat.exists_eq_add_of_le' (Nat.le_sub_of_add_le' furnished.levels)
  obtain ⟨r, _, after, supplied, called, extends'⟩ := answers levels
  refine ⟨{ e with machine := after }, ?_, furnished.natives, furnished.machine.keep extends'.toKeeps,
    extends'.depth ▸ furnished.levels⟩
  have called : hostCaller (e.natives.embedding w e.limits.rounds) e.limits.levels
      (.apply (.object r) .undefined arguments) e.machine = .ok v after := by
    rw [hostCaller, enough, furnished.natives]
    exact called
  have found := supplied.toRefers.lookup_eq supplied.plain supplied.free
  rw [ask, run, finish, Outcome.bind_of_ok found, called]

theorem ask_eq : (e.ask w name arguments).1 = .ok v := by
  obtain ⟨_, asked, _⟩ := exists_ask_eq furnished w answers
  rw [asked]

end

/-- The address of a host is asked for. -/
theorem ask_dnsResolve_eq (u : Units) :
    (e.ask w "dnsResolve" [.text u]).1 =
      .ok (Native.optional (HostFunction.dnsResolve w (Units.toEscapedString u))) :=
  ask_eq furnished w fun levels =>
    furnished.machine.dnsResolve_answers w e.limits.rounds (levels + 2) u

/-- A network is asked whether it holds an address. -/
theorem ask_isInNetEx_eq (a n : Units) :
    (e.ask w "isInNetEx" [.text a, .text n]).1 =
      .ok (.bool (HostFunction.isInNetEx (Units.toEscapedString a) (Units.toEscapedString n))) :=
  ask_eq furnished w fun levels =>
    furnished.machine.isInNetEx_answers w e.limits.rounds (levels + 2) a n

/-- A host without an address is in no network, -/
theorem ask_isInNet_eq_false {u : Units} (unreached : Library.reached? w u = none)
    (pattern mask : Value) :
    (e.ask w "isInNet" [.text u, pattern, mask]).1 = .ok (.bool false) :=
  ask_eq furnished w fun levels =>
    furnished.machine.isInNet_answers_none w e.limits.rounds levels unreached pattern mask

/-- and for another one the bits of the address are compared. -/
theorem ask_isInNet_eq {u t : Units} (reached : Library.reached? w u = some t) (pattern mask : Units) :
    (e.ask w "isInNet" [.text u, .text pattern, .text mask]).1 =
      .ok (.bool (addressBits t &&& addressBits mask == addressBits pattern &&& addressBits mask)) :=
  ask_eq furnished w fun levels =>
    furnished.machine.isInNet_answers w e.limits.rounds levels reached pattern mask

omit furnished in
/-- An engine whose script is empty starts with everything in its place. -/
theorem exists_start_empty :
    ∃ e, start .standard .standard (World.isolated 0 0) "" = .ok e ∧ e.Furnished := by
  have starts : (start .standard .standard (World.isolated 0 0) "").isOk = true := by
    decide +kernel
  have bare : (Program.parse? "".toList).all fun program =>
      program.body.isEmpty && program.hoisted.isEmpty := by decide +kernel
  have declares : ∀ program, Program.parse? "".toList = some program → program.Declares [] := by
    intro program parsed
    rw [parsed] at bare
    obtain ⟨body, hoisted⟩ := Bool.and_eq_true_iff.mp bare
    exact ⟨List.isEmpty_iff.mp body, List.isEmpty_iff.mp hoisted, List.forall_mem_nil _,
      List.nodup_nil⟩
  obtain ⟨e, started⟩ := Outcome.exists_eq_ok starts
  exact ⟨e, started, furnished_of_start started declares (fun _ _ => List.not_mem_nil) (by decide)⟩

/-! ## The laws -/

/-- **The two tests on networks agree.** A host that is the text of an address, or is not four runs of
digits, lies in a network that is given by an address and a mask when an address is found for it and the
network of that length holds the address. -/
theorem isInNet_iff_isInNetEx {u : Units}
    (host : (∃ cs, u = Units.ofChars cs ∧ (Ipv4.parse? cs).isSome) ∨ ¬ IsDotted u) (base : Ipv4)
    {length : Nat} (small : length ≤ 32) :
    ∃ inNet resolved,
      (e.ask w "isInNet" [.text u, .text (addressText base),
        .text (addressText (Network.mask 32 length))]).1 = .ok (.bool inNet) ∧
      (e.ask w "dnsResolve" [.text u]).1 = .ok resolved ∧
      (inNet = true ↔ resolved ≠ .null ∧
        (e.ask w "isInNetEx" [resolved, .text (Units.ofChars (Network.written base length))]).1 =
          .ok (.bool true)) := by
  have reached := Library.reached?_eq_dnsResolve (w := w) host
  have resolved := ask_dnsResolve_eq furnished w u
  cases found : HostFunction.dnsResolve w (Units.toEscapedString u) with
  | none =>
    rw [found] at reached resolved
    refine ⟨false, .null, ask_isInNet_eq_false furnished w reached _ _, resolved, ?_⟩
    exact ⟨fun no => absurd no Bool.false_ne_true, fun yes => absurd rfl yes.1⟩
  | some address =>
    obtain ⟨a, rfl⟩ := HostFunction.exists_of_dnsResolve found
    have text : Units.ofString (String.ofList (Ipv4.text a)) = addressText a := by
      rw [Units.ofString, String.toList_ofList, addressText]
    rw [found, Option.map_some, text] at reached
    rw [found, Native.optional, Value.ofString, text] at resolved
    refine ⟨_, .text (addressText a), ask_isInNet_eq furnished w reached _ _, resolved, ?_⟩
    rw [ask_isInNetEx_eq furnished, addressBits_addressText, addressBits_addressText,
      addressBits_addressText, Units.toEscapedString, Units.toEscapedString, addressText,
      Units.escaped_ofChars, Units.escaped_ofChars, HostFunction.isInNetEx_written a base small]
    exact ⟨fun holds => ⟨Value.noConfusion, by rw [holds]⟩,
      fun holds => Value.bool.inj (Except.ok.inj holds.2)⟩

omit furnished in
/-- So they agree, in an engine that has just started, on an address and a network that holds it. -/
theorem isInNet_iff_isInNetEx_started :
    ∃ (e : Engine) (resolved : Value), let w := World.isolated 0 0
      start .standard .standard w "" = .ok e ∧
      (e.ask w "isInNet" [.text (Units.ofString "10.1.2.3"), .text (addressText (Ipv4.ofOctets 10 0 0 0)),
        .text (addressText (Network.mask 32 8))]).1 = .ok (.bool true) ∧
      (e.ask w "dnsResolve" [.text (Units.ofString "10.1.2.3")]).1 = .ok resolved ∧
      (e.ask w "isInNetEx" [resolved,
        .text (Units.ofChars (Network.written (Ipv4.ofOctets 10 0 0 0) 8))]).1 = .ok (.bool true) := by
  obtain ⟨e, started, furnished⟩ := exists_start_empty
  have read : (Ipv4.parse? "10.1.2.3".toList).isSome := by decide +kernel
  obtain ⟨inNet, resolved, asked, found, agree⟩ := isInNet_iff_isInNetEx furnished (World.isolated 0 0)
    (.inl ⟨_, rfl, read⟩) (Ipv4.ofOctets 10 0 0 0) (by decide : 8 ≤ 32)
  have dotted : IsDotted (Units.ofString "10.1.2.3") :=
    (Library.isSome_find?_iff _).mp (by decide +kernel)
  have within := ask_isInNet_eq furnished (World.isolated 0 0) (Library.reached?_of_isDotted dotted)
    (addressText (Ipv4.ofOctets 10 0 0 0)) (addressText (Network.mask 32 8))
  have holds : inNet = true :=
    (Value.bool.inj (Except.ok.inj (asked.symm.trans within))).trans (by decide +kernel)
  exact ⟨e, resolved, started, holds ▸ asked, found, (agree.mp holds).2⟩

/-- **Whether a host without an address is in a network.** Where it is not four runs of digits it is in
none. Where it is, it is in the networks of the address that the lowest eight bits of each run make up. -/
theorem isInNet_of_unresolved {u : Units}
    (unresolved : (e.ask w "dnsResolve" [.text u]).1 = .ok .null) :
    (¬ IsDotted u → ∀ pattern mask : Value,
      (e.ask w "isInNet" [.text u, pattern, mask]).1 = .ok (.bool false)) ∧
    ∀ a b c d, (IsRun a ∧ IsRun b) → (IsRun c ∧ IsRun d) → u = dotted [a, b, c, d] →
      ∀ pattern mask : Units, ∃ inNet,
        (e.ask w "isInNet" [.text u, .text pattern, .text mask]).1 = .ok (.bool inNet) ∧
        (e.ask w "isInNet" [.text (addressText (runsAddress a b c d)), .text pattern, .text mask]).1 =
          .ok (.bool inNet) := by
  constructor
  · intro undotted pattern mask
    rw [ask_dnsResolve_eq furnished] at unresolved
    have nowhere : HostFunction.dnsResolve w (Units.toEscapedString u) = none := by
      cases found : HostFunction.dnsResolve w (Units.toEscapedString u) with
      | none => rfl
      | some address => rw [found] at unresolved; cases unresolved
    refine ask_isInNet_eq_false furnished w ?_ pattern mask
    rw [Library.reached?_of_not_isDotted undotted, nowhere, Option.map_none]
  · rintro a b c d ⟨ha, hb⟩ ⟨hc, hd⟩ rfl pattern mask
    have address := Library.reached?_of_isDotted (w := w) (isDotted_addressText (runsAddress a b c d))
    have host := Library.reached?_of_isDotted (w := w) ⟨a, b, c, d, ⟨ha, hb⟩, ⟨hc, hd⟩, rfl⟩
    refine ⟨_, ask_isInNet_eq furnished w host pattern mask, ?_⟩
    rw [ask_isInNet_eq furnished w address, addressBits_addressText, addressBits_dotted ha hb hc hd]

omit furnished in
/-- So a name that nobody knows is in no network. -/
theorem isInNet_of_unresolved_name : ∃ e : Engine, let w := World.isolated 0 0
    start .standard .standard w "" = .ok e ∧
    (e.ask w "dnsResolve" [.text (Units.ofString "proxy.example")]).1 = .ok .null ∧
    ∀ pattern mask : Value,
      (e.ask w "isInNet" [.text (Units.ofString "proxy.example"), pattern, mask]).1 =
        .ok (.bool false) := by
  obtain ⟨e, started, furnished⟩ := exists_start_empty
  have unresolved : (e.ask (World.isolated 0 0) "dnsResolve"
      [.text (Units.ofString "proxy.example")]).1 = .ok .null := by
    rw [ask_dnsResolve_eq furnished, Units.toEscapedString_ofString]
    rfl
  have undotted : ¬ IsDotted (Units.ofString "proxy.example") :=
    mt (Library.isSome_find?_iff _).mpr (by decide +kernel)
  exact ⟨e, started, unresolved,
    (isInNet_of_unresolved furnished (World.isolated 0 0) unresolved).1 undotted⟩

omit furnished in
/-- **A host that has no address lies in a network.** Its first run of digits is above 255. -/
theorem isInNet_above_255 : ∃ e : Engine, let w := World.isolated 0 0
    start .standard .standard w "" = .ok e ∧ Ipv4.parse? "256.1.1.1".toList = none ∧
    (e.ask w "dnsResolve" [.text (Units.ofString "256.1.1.1")]).1 = .ok .null ∧
    (e.ask w "isInNet" [.text (Units.ofString "256.1.1.1"), .text (Units.ofString "0.1.1.1"),
      .text (Units.ofString "255.255.255.255")]).1 = .ok (.bool true) := by
  obtain ⟨e, started, furnished⟩ := exists_start_empty
  have dotted : IsDotted (Units.ofString "256.1.1.1") :=
    (Library.isSome_find?_iff _).mp (by decide +kernel)
  refine ⟨e, started, rfl, ?_, ?_⟩
  · rw [ask_dnsResolve_eq furnished, Units.toEscapedString_ofString]
    rfl
  · rw [ask_isInNet_eq furnished _ (Library.reached?_of_isDotted dotted)]
    exact congrArg (fun b => Except.ok (Value.bool b)) (by decide +kernel)

end Engine

end ProxyAutoConfig
