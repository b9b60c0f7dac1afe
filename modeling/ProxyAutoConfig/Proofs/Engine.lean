import ProxyAutoConfig.Engine
import ProxyAutoConfig.Proofs.Outcome
import ProxyAutoConfig.Proofs.Script.Levels

/-!
# The engine from lookup to lookup

A lookup is one call of the decision function, and the engine goes on with the machine that the
call leaves, whatever came of it (`decide_eq`). Of the engine nothing but the machine changes.

A lookup has the levels that are left to the engine (`called_eq`). A new engine has all its levels
(`start_depth`), and a lookup leaves as many as it finds, unless a host function breaks down in it:
the levels of the calls under way are taken for good then, but never the last one (`left_decide`).

An engine starts in stages (`Starts`), of which the script of the session is the last.
-/

namespace ProxyAutoConfig

open ProxyAutoConfig.Script ProxyAutoConfig.Text

/-! ## Host functions -/

/-- **A steady host function** leaves the count of calls as it found it, and may break down only
where a level is left; it makes no calls but to turn its arguments into text. -/
def Native.Steady (native : Native) : Prop :=
  ∀ (w : World) (depth top : Nat) (toText : Value → Eval Units), depth < top →
    (∀ v, Eval.Steady depth top (toText v)) →
      ∀ arguments, Eval.Steady depth top (native.run w toText arguments)

/-- A table of steady host functions. -/
def NativeTable.Steady (table : NativeTable) : Prop :=
  ∀ native ∈ table, native.Steady

/-- **A host function that keeps a discipline**, where a level is left for it. -/
def Native.Keeps (native : Native) (D : Discipline) : Prop :=
  ∀ (w : World) (depth top : Nat) (toText : Value → Eval Units), depth < top →
    (∀ P v, D.Keeps depth top P (toText v)) →
      ∀ P arguments, D.Keeps depth top P (native.run w toText arguments)

/-- A table of host functions that keep a discipline. -/
def NativeTable.Keeps (table : NativeTable) (D : Discipline) : Prop :=
  ∀ native ∈ table, native.Keeps D

namespace Native

variable {D : Discipline}

theorem textArgument_keeps {depth top : Nat} {P : D.Condition} {toText : Value → Eval Units}
    (texts : ∀ P v, D.Keeps depth top P (toText v)) (arguments : List Value) (i : Nat) :
    D.Keeps depth top P (textArgument toText arguments i) :=
  .bind (texts P _) fun _ => .pure _

theorem ofText_keeps (name : String) (f : World → String → Value) : (ofText name f).Keeps D :=
  fun _ _ _ _ _ texts _ arguments =>
    .bind (textArgument_keeps texts arguments 0) fun _ => .pure _

theorem ofTexts_keeps (name : String) (f : String → String → Bool) : (ofTexts name f).Keeps D :=
  fun _ _ _ _ _ texts _ arguments =>
    .bind (textArgument_keeps texts arguments 0) fun _ =>
      .bind (textArgument_keeps texts arguments 1) fun _ => .pure _

theorem ofWorld_keeps (name : String) (f : World → String) : (ofWorld name f).Keeps D :=
  fun _ _ _ _ _ _ _ _ => .pure _

theorem ofRange_keeps (name : String) (length : Nat) (f : World → List Range.Term → Bool) :
    (ofRange name length f).Keeps D := by
  intro w depth top toText _ texts P arguments
  refine .bind (.mapM (fun v => ?_) _) fun terms => .pure _
  cases v with
  | number n => exact .pure _
  | _ => exact .bind (texts P _) fun _ => .pure _

/-- A host function is steady that keeps the discipline that asks for nothing. -/
theorem steady_iff {native : Native} : native.Steady ↔ native.Keeps .idle := by
  constructor
  · intro steady w depth top toText left texts P arguments
    have run := steady w depth top toText left (fun v => Eval.steady_iff.mpr (texts .any v)) arguments
    exact (Eval.steady_iff.mp run).mono (.any P)
  · intro keeps w depth top toText left texts arguments
    have texts := fun P v => (Eval.steady_iff.mp (texts v)).mono (.any P)
    exact Eval.steady_iff.mpr (keeps w depth top toText left texts .any arguments)

end Native

namespace NativeTable

/-- **The host functions of standard scripts keep every discipline.** -/
theorem standard_keeps {D : Discipline} : standard.Keeps D := by
  simp only [Keeps, standard, List.forall_mem_cons, Native.ofText_keeps, Native.ofTexts_keeps,
    Native.ofWorld_keeps, Native.ofRange_keeps, List.not_mem_nil, false_implies, implies_true,
    and_self]

/-- The host functions of standard scripts are steady. -/
theorem standard_steady : standard.Steady :=
  fun native mem => Native.steady_iff.mpr (standard_keeps native mem)

theorem embedding_keeps {D : Discipline} {table : NativeTable} (keeps : table.Keeps D) (w : World)
    (rounds top : Nat) : (table.embedding w rounds).Keeps D top := by
  intro depth left call calls P i arguments
  dsimp only [embedding]
  cases found : table[i]? with
  | none => exact .pure _
  | some native =>
    exact keeps native (List.mem_of_getElem? found) w depth top _ left (fun _ => .toText calls) P
      arguments

theorem embedding_steady {table : NativeTable} (steady : table.Steady) (w : World)
    (rounds top : Nat) : (table.embedding w rounds).Steady top :=
  Embedding.steady_iff.mpr
    (embedding_keeps (fun native mem => Native.steady_iff.mp (steady native mem)) w rounds top)

/-- **Giving scripts a table keeps a discipline** to which its names do not matter, and makes no
calls. -/
theorem register_keeps {D : Discipline} {table : NativeTable} {m after : Machine} {index : Nat}
    (free : ∀ native ∈ table, D.free (Key.ofUnits (Units.ofString native.name)))
    (holds : D.holds m.objects m.scopes) (registered : register m index table = .ok after) :
    after.depth = m.depth ∧ D.holds after.objects after.scopes ∧ D.later m.scopes after.scopes := by
  induction table generalizing m index with
  | nil =>
    cases registered
    exact ⟨rfl, holds, D.later_refl _⟩
  | cons native rest ih =>
    obtain ⟨first, others⟩ := List.forall_mem_cons.mp free
    have keeps : D.Keeps m.depth (m.depth + 1) .any
      (Realm.addHost native.name native.length index) := .addHost first _ _
    rw [register] at registered
    split at registered
    next next added =>
      obtain ⟨count, kept, later⟩ := keeps.of_ok holds trivial (Eval.ok_of_finish added)
      obtain ⟨depth, holds, last⟩ := ih others kept registered
      exact ⟨depth.trans count, holds, D.later_trans later last⟩
    all_goals cases registered

/-- Giving scripts a table makes no calls. -/
theorem register_depth {table : NativeTable} {m after : Machine} {index : Nat}
    (registered : register m index table = .ok after) : after.depth = m.depth :=
  have keeps := @register_keeps .idle table m after index
  (keeps (fun _ _ => trivial) trivial registered).1

end NativeTable

namespace Engine

/-! ## One lookup -/

variable (e : Engine) (w : World) (url host : String)

/-- How the engine carries out calls. -/
def calls : Caller :=
  Eval.hostCaller (e.natives.embedding w e.limits.rounds) e.limits.levels

/-- The call of the decision function in the engine's machine, and the machine that it leaves. -/
def called : Except Fault Verdict × Machine :=
  Eval.finish (callDecision url host (e.calls w)) e.machine

/-- What a lookup answers when a call came to this. -/
def concluded : Except Fault Verdict → Outcome String
  | .ok (.decision u) => .ok (Units.toEscapedString u)
  | .ok .undefined => .error (.evaluation notDefined)
  | .ok .noValue => .error (.evaluation ("`" ++ decisionFunction ++ "` returned no value"))
  | .error (.shown text) => .error (.evaluation text)
  | .error (.broken message) => .error (.evaluation ("native function panicked: " ++ message))

/-- **A lookup is one call of the decision function**, and the engine goes on with the machine that
the call leaves. -/
theorem decide_eq :
    e.decide w url host =
      (concluded (e.called w url host).1, { e with machine := (e.called w url host).2 }) := by
  have ran : e.run w (callDecision url host) =
      ((e.called w url host).1, { e with machine := (e.called w url host).2 }) := rfl
  rw [decide, ran]
  rcases (e.called w url host).1 with (text | message) | (_ | _ | u) <;> rfl

/-- An evaluation fails as one. -/
theorem kind_of_concluded {x : Except Fault Verdict} {failure : Failure}
    (failed : concluded x = .error failure) : failure.kind = .evaluationFailed := by
  rcases x with (text | message) | (_ | _ | u) <;> cases failed <;> rfl

/-! ## Levels that are left -/

/-- **The engine is ready**: a level is left for a call. -/
def Ready (e : Engine) : Prop :=
  e.machine.depth < e.limits.levels

/-- **The levels that are left to an engine.** -/
def left (e : Engine) : Nat :=
  e.limits.levels - e.machine.depth

/-- The call of the decision function in the engine's machine with so many levels, and the machine that
it leaves. -/
def calledWithin (levels : Nat) : Except Fault Verdict × Machine :=
  Eval.finish (callDecision url host (Eval.caller (e.natives.embedding w e.limits.rounds) levels))
    e.machine

variable {e} in
/-- A call of the decision function keeps a discipline where the host functions do. -/
theorem callDecision_keeps {D : Discipline} (enters : D.Enters) (keeps : e.natives.Keeps D)
    {depth : Nat} {P : D.Condition} :
    D.Keeps depth e.limits.levels P (callDecision url host (e.calls w)) := by
  have calls : D.KeepsCalls depth e.limits.levels (e.calls w) :=
    .hostCaller enters (NativeTable.embedding_keeps keeps w _ _)
  unfold callDecision
  grind

variable {e} in
theorem callDecision_steady (steady : e.natives.Steady) {depth : Nat} :
    Eval.Steady depth e.limits.levels (callDecision url host (e.calls w)) :=
  Eval.steady_iff.mpr (callDecision_keeps w url host Discipline.idle_enters
    fun native mem => Native.steady_iff.mp (steady native mem))

/-- The decision function is called in one way by callers that agree. -/
theorem agreeAt_callDecision {depth top : Nat} {call call' : Caller}
    (agree : ∀ c, Eval.AgreeAt depth (call c) (call' c)) (steady : Eval.SteadyCalls depth top call) :
    Eval.AgreeAt depth (callDecision url host call) (callDecision url host call') := by
  have gets {r : Ref} {k : Key} : Eval.Steady depth top (Eval.get r k) :=
    Eval.steady_iff.mpr (.get r k)
  have reads {f : Value} : Eval.Steady depth top (Eval.code? f) := Eval.steady_iff.mpr (.code? f)
  refine (Eval.AgreeAt.refl _).bind gets fun f => ?_
  refine (Eval.AgreeAt.refl _).bind reads fun code => ?_
  cases code with
  | none => exact .refl _
  | some code =>
    refine (agree _).bind (steady _) fun v => ?_
    have texts := Eval.AgreeAt.toText agree steady v
    have shown : Eval.Steady depth top (Eval.toText call v) :=
      Eval.steady_iff.mpr (.toText (Eval.steadyCalls_iff.mp steady) v)
    split
    · exact .refl _
    · exact texts.bind shown fun _ => .refl _

variable {e} in
/-- **A lookup is carried out with the levels that are left.** -/
theorem called_eq (steady : e.natives.Steady) :
    e.called w url host = e.calledWithin w url host e.left := by
  have calls : Eval.SteadyCalls e.machine.depth e.limits.levels (e.calls w) := by
    have keeps := NativeTable.embedding_keeps
      (fun native mem => Native.steady_iff.mp (steady native mem)) w e.limits.rounds e.limits.levels
    exact Eval.steadyCalls_iff.mpr (.hostCaller Discipline.idle_enters keeps)
  have agree := agreeAt_callDecision url host
    (Eval.agreeAt_hostCaller (e.natives.embedding w e.limits.rounds) e.limits.levels _) calls
  rw [called, calledWithin, Eval.finish, Eval.finish, left, ← agree e.machine rfl]
  rfl

variable {e} in
/-- **A lookup leaves the levels that it finds**, unless a host function breaks down; then it leaves no
more than that, but one at least. -/
theorem left_decide (steady : e.natives.Steady) :
    let after := (e.decide w url host).2
    after.left = e.left ∨
      (∃ message, (e.called w url host).1 = .error (.broken message)) ∧
        after.left ≤ e.left ∧ 0 < after.left := by
  have levels := (callDecision_steady w url host steady : Eval.Steady e.machine.depth _ _).finish
  simp only [decide_eq, left]
  rcases levels with same | ⟨broken, more, less⟩
  · exact .inl (congrArg (e.limits.levels - ·) same)
  · exact .inr ⟨broken, Nat.sub_le_sub_left more _, Nat.sub_pos_of_lt less⟩

/-! ## The start -/

section Start

variable (natives : NativeTable) (limits : Limits) (w : World) (content : String)

/-- Run the library in a machine that has the host functions. -/
def loadLibrary (m : Machine) : Outcome Machine :=
  load (natives.embedding w limits.rounds) limits "PAC library" (some Library.program) m

/-- Run the script of a session in a machine in which the library has run. -/
def loadScript (m : Machine) : Outcome Machine :=
  load (natives.embedding w limits.rounds) limits "PAC script" (Program.parse? content.toList) m

/-- **How an engine starts**: the table of host functions is checked and then given to scripts, the
library runs, and last of all the script. The first of these that fails is the last that happens. -/
inductive Starts : Outcome Engine → Prop
  | flaw {name reason : String} : natives.flaw? [] = some (name, reason) →
      Starts (.error (.nativeRegistration name reason))
  | refused {failure : Failure} : natives.flaw? [] = none →
      natives.register Realm.initial 0 = .error failure → Starts (.error failure)
  | library {registered : Machine} {failure : Failure} : natives.flaw? [] = none →
      natives.register Realm.initial 0 = .ok registered →
      loadLibrary natives limits w registered = .error failure → Starts (.error failure)
  | script {registered furnished : Machine} {failure : Failure} : natives.flaw? [] = none →
      natives.register Realm.initial 0 = .ok registered →
      loadLibrary natives limits w registered = .ok furnished →
      loadScript natives limits w content furnished = .error failure → Starts (.error failure)
  | ready {registered furnished m : Machine} : natives.flaw? [] = none →
      natives.register Realm.initial 0 = .ok registered →
      loadLibrary natives limits w registered = .ok furnished →
      loadScript natives limits w content furnished = .ok m → Starts (.ok ⟨m, natives, limits⟩)

theorem start_eq :
    start natives limits w content =
      match natives.flaw? [] with
      | some (name, reason) => .error (.nativeRegistration name reason)
      | none => do
        let registered ← natives.register Realm.initial 0
        let furnished ← loadLibrary natives limits w registered
        let m ← loadScript natives limits w content furnished
        return ⟨m, natives, limits⟩ := by
  rw [start]
  cases natives.flaw? [] <;> rfl

variable {natives limits w content}

/-- **An engine starts in one way**, and there is one for every table, script and world. -/
theorem starts_iff {outcome : Outcome Engine} :
    Starts natives limits w content outcome ↔ start natives limits w content = outcome := by
  constructor
  · rw [start_eq]
    rintro (flawed | ⟨flawless, refused⟩ | ⟨flawless, given, failed⟩ |
      ⟨flawless, given, ran, failed⟩ | ⟨flawless, given, ran, loaded⟩)
    · rw [flawed]
    · rw [flawless]
      simp only [refused, Outcome.error_bind]
    · rw [flawless]
      simp only [given, failed, Outcome.ok_bind, Outcome.error_bind]
    · rw [flawless]
      simp only [given, ran, failed, Outcome.ok_bind, Outcome.error_bind]
    · rw [flawless]
      simp only [given, ran, loaded, Outcome.ok_bind]
      rfl
  · rintro rfl
    rw [start_eq]
    cases flawed : natives.flaw? [] with
    | some entry => exact .flaw flawed
    | none =>
      simp only
      cases given : natives.register Realm.initial 0 with
      | error failure => exact .refused flawed given
      | ok registered =>
        simp only [Outcome.ok_bind]
        cases ran : loadLibrary natives limits w registered with
        | error failure => exact .library flawed given ran
        | ok furnished =>
          simp only [Outcome.ok_bind]
          cases loaded : loadScript natives limits w content furnished with
          | error failure => exact .script flawed given ran loaded
          | ok m => exact .ready flawed given ran loaded

/-! ## Kinds of failures -/

theorem register_fails (table : NativeTable) (m : Machine) (index : Nat) :
    Outcome.FailsAs [.nativeRegistrationFailed] (NativeTable.register m index table) := by
  induction table generalizing m index with
  | nil => exact .ok _
  | cons native rest ih =>
    rw [NativeTable.register]
    split
    · exact ih _ _
    · exact .error List.mem_cons_self
    · exact .error List.mem_cons_self

theorem load_fails (outside : Embedding) (limits : Limits) (stage : String)
    (program : Option Program) (m : Machine) :
    Outcome.FailsAs [.scriptLoadFailed] (load outside limits stage program m) := by
  unfold load
  dsimp only
  split
  · exact .ok _
  · exact .error List.mem_cons_self
  · exact .error List.mem_cons_self

/-- An engine that does not start says that it could not be set up. -/
theorem start_fails :
    Outcome.FailsAs [.nativeRegistrationFailed, .scriptLoadFailed]
      (start natives limits w content) := by
  have given := (register_fails natives Realm.initial 0).mono
    (List.cons_subset_cons _ (List.nil_subset [Failure.Kind.scriptLoadFailed]))
  have loads := fun stage program m =>
    (load_fails (natives.embedding w limits.rounds) limits stage program m).mono
      (List.subset_cons_self Failure.Kind.nativeRegistrationFailed _)
  rw [start_eq]
  split
  · exact .error List.mem_cons_self
  · exact given.bind fun _ => (loads _ _ _).bind fun _ => (loads _ _ _).bind fun _ => .ok _

/-! ## Levels of a new engine -/

/-- **The heap that every script finds** is as a discipline wants it to which no key matters. -/
theorem initial_keeps {D : Discipline} (free : ∀ k, D.free k)
    (bare : D.holds Realm.bare.objects Realm.bare.scopes) :
    Realm.initial.depth = 0 ∧ D.holds Realm.initial.objects Realm.initial.scopes ∧
      D.later Realm.bare.scopes Realm.initial.scopes := by
  -- With no level left nothing breaks down.
  have keeps : D.Keeps 0 0 .any Realm.furnish := .furnish free
  delta Realm.initial
  -- Under its own name the computation would be run by the next line.
  generalize Realm.furnish = furnish at keeps ⊢
  have ends := keeps.ends Realm.bare rfl bare trivial
  cases outcome : furnish Realm.bare with
  | ok _ m =>
    rw [outcome] at ends
    exact ⟨ends.1, ends.2.1, ends.2.2.1⟩
  | error halt m =>
    rw [outcome] at ends
    cases halt with
    | broken message => exact absurd (D.fallen_lt ends.1) (Nat.not_lt_zero _)
    | limit | thrown v => exact ends

/-- The heap that every script finds counts no calls. -/
theorem initial_depth : Realm.initial.depth = 0 :=
  have keeps := @initial_keeps .idle
  (keeps (fun _ => trivial) trivial).1

/-- **A script that has been loaded could be read**, and has run to its end. -/
theorem runScript_of_load {outside : Embedding} {stage : String} {program : Option Program}
    {m after : Machine} (loaded : load outside limits stage program m = .ok after) :
    ∃ s, program = some s ∧ Eval.runScript outside limits.levels s m = .ok () after := by
  unfold load at loaded
  dsimp only at loaded
  split at loaded
  next finished =>
    cases loaded
    have ran := Eval.ok_of_finish finished
    cases program with
    | some s => exact ⟨s, rfl, ran⟩
    | none =>
      obtain ⟨_, _, _, thrown⟩ := Outcome.exists_of_bind_ok ran
      cases thrown
  all_goals cases loaded

theorem load_depth {outside : Embedding} {stage : String} {program : Option Program}
    {m after : Machine} (steady : outside.Steady limits.levels)
    (loaded : load outside limits stage program m = .ok after) : after.depth = m.depth := by
  obtain ⟨s, _, ran⟩ := runScript_of_load loaded
  have here : Discipline.Condition.any.Has (Discipline.idleSite.here globalScope) := .any _
  have keeps : Discipline.idle.Keeps m.depth limits.levels .any
      (Eval.runScript outside limits.levels s) :=
    .runScript Discipline.idle_enters (Embedding.steady_iff.mp steady) here fun _ _ => trivial
  exact (keeps.of_ok trivial trivial ran).1

/-- An engine has the table and the limits with which it has been started. -/
theorem given_of_start {e : Engine} (started : start natives limits w content = .ok e) :
    e.natives = natives ∧ e.limits = limits := by
  cases starts_iff.mpr started with
  | ready => exact ⟨rfl, rfl⟩

/-- **An engine starts with all its levels**, and with the table and the limits that it was given. -/
theorem start_depth {e : Engine} (steady : natives.Steady)
    (started : start natives limits w content = .ok e) :
    e.natives = natives ∧ e.limits = limits ∧ e.machine.depth = 0 := by
  have host := NativeTable.embedding_steady steady w limits.rounds limits.levels
  cases starts_iff.mpr started with
  | @ready registered furnished m _ given ran loaded =>
    have first : registered.depth = 0 :=
      (NativeTable.register_depth given).trans initial_depth
    have second := load_depth host ran
    have third := load_depth host loaded
    exact ⟨rfl, rfl, third.trans (second.trans first)⟩

end Start

end Engine

end ProxyAutoConfig
