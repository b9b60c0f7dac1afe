import ProxyAutoConfig.Proofs.Native.Serving
import ProxyAutoConfig.Proofs.Script.Contained
import ProxyAutoConfig.Proofs.Script.Methods

/-!
# Engines with everything in its place

A machine is furnished when the objects that every script finds are as they were, and when the functions
of the library and the host functions are what their names stand for (`Machine.Furnished`). It stays so
while it grows, and so everything that is in its place is found at any depth of calls.

**The law** (`Engine.furnished_of_start`): an engine that starts with the standard host functions is
furnished when its script declares functions of other names and does nothing else.
-/

namespace ProxyAutoConfig

open ProxyAutoConfig.Script ProxyAutoConfig.Text Discipline Condition

namespace Script

/-! ## What every script finds -/

/-- The function that every script has, where an object is one. -/
def Object.builtin? (o : Object) : Option Builtin :=
  match o.code? with
  | some (.builtin b) => some b
  | _ => none

theorem Object.code?_of_builtin? {o : Object} {b : Builtin} (known : o.builtin? = some b) :
    o.code? = some (.builtin b) := by
  unfold builtin? at known
  split at known
  next held => rw [held, Option.some.inj known]
  next => cases known

/-- The function that an object has for a method. -/
def Machine.builtin? (m : Machine) (owner : Ref) (k : Key) : Option (Ref × Builtin) := do
  let o ← m.objects[owner]?
  let p ← o.own? k
  let r ← p.value.ref?
  let f ← m.objects[r]?
  return (r, ← f.builtin?)

theorem Machine.hasMethod_of_builtin? {m : Machine} {owner r : Ref} {k : Key} {b : Builtin}
    (found : m.builtin? owner k = some (r, b)) : m.HasMethod owner k r b := by
  obtain ⟨o, there, found⟩ := Option.bind_eq_some_iff.mp found
  obtain ⟨p, held, found⟩ := Option.bind_eq_some_iff.mp found
  obtain ⟨q, value, found⟩ := Option.bind_eq_some_iff.mp found
  obtain ⟨f, here, found⟩ := Option.bind_eq_some_iff.mp found
  obtain ⟨c, known, found⟩ := Option.bind_eq_some_iff.mp found
  cases found
  exact ⟨⟨o, p, there, held, Value.eq_of_ref? value⟩, f, here, Object.code?_of_builtin? known⟩

/-- **A method that was in its place** is there as long as all objects but the global one are as they
were. -/
theorem KeepsOthers.hasMethod (base m : Machine) (keeps : KeepsOthers base.objects m.objects)
    {owner : Ref} {k : Key} {b : Builtin} (known : owner ≠ Well.global)
    (found : (base.builtin? owner k).any fun found => found.1 != Well.global && found.2 == b) :
    ∃ r, m.HasMethod owner k r b := by
  cases held : base.builtin? owner k with
  | none => rw [held] at found; cases found
  | some entry =>
    obtain ⟨r, c⟩ := entry
    rw [held] at found
    obtain ⟨other, same⟩ := Bool.and_eq_true_iff.mp found
    obtain rfl : c = b := beq_iff_eq.mp same
    obtain ⟨⟨o, p, there, own, value⟩, f, here, code⟩ := Machine.hasMethod_of_builtin? held
    exact ⟨r, ⟨o, p, keeps _ _ known there, own, value⟩, f, keeps _ _ (bne_iff_ne.mp other) here, code⟩

/-- A property of the global object that holds a function. -/
theorem Refers.of_builtin? (m : Machine) {x : Units} {b : Builtin}
    (plain : ∃ o, m.objects[Well.global]? = some o ∧ o.kind = .plain)
    (found : (m.builtin? Well.global (Key.ofUnits x)).any fun found => found.2 == b) :
    ∃ r, Refers x r (.builtin b) m.objects := by
  cases held : m.builtin? Well.global (Key.ofUnits x) with
  | none => rw [held] at found; cases found
  | some entry =>
    obtain ⟨r, c⟩ := entry
    rw [held] at found
    obtain rfl : c = b := beq_iff_eq.mp found
    obtain ⟨⟨o, p, there, own, value⟩, function⟩ := Machine.hasMethod_of_builtin? held
    obtain ⟨_, same, plain⟩ := plain
    rw [there] at same
    cases same
    refine ⟨r, ⟨o, p, there, ?_, value⟩, function⟩
    unfold Object.own? at own
    rw [plain] at own
    exact own

/-- No property of the object is found under a place. -/
def Object.isPlaceless (o : Object) : Bool :=
  (match o.kind with
    | .array items => items.isEmpty
    | .text u => u.isEmpty
    | _ => true) &&
  o.properties.all fun entry =>
    match entry.1 with
    | .index _ => false
    | .name _ => true

theorem Object.own?_of_isPlaceless {o : Object} (placeless : o.isPlaceless) (i : Nat) :
    o.own? (.index i) = none := by
  obtain ⟨kind, parent, properties⟩ := o
  obtain ⟨empty, named⟩ := Bool.and_eq_true_iff.mp placeless
  have absent : properties.lookup (.index i) = none := by
    rw [List.lookup_eq_none_iff]
    rintro ⟨k, p⟩ mem
    have named := List.all_eq_true.mp named _ mem
    cases k with
    | index n => cases named
    | name u => rfl
  cases kind with
  | array items =>
    simp only [Array.isEmpty_iff] at empty
    simp [own?, empty, absent]
  | text u =>
    simp only [List.isEmpty_iff] at empty
    simp [own?, empty, absent]
  | _ => exact absent

/-- An object without places, below one without places that has no parent, lacks all places. -/
theorem KeepsOthers.lacks (base m : Machine) (keeps : KeepsOthers base.objects m.objects)
    {owner above : Ref} (known : owner ≠ Well.global) (known' : above ≠ Well.global)
    (below : (base.objects[owner]?).any fun o => o.isPlaceless && o.parent == some above)
    (top : (base.objects[above]?).any fun o => o.isPlaceless && o.parent == none) (i : Nat) :
    m.Lacks (.index i) owner := by
  cases there : base.objects[owner]? with
  | none => rw [there] at below; cases below
  | some o =>
    cases there' : base.objects[above]? with
    | none => rw [there'] at top; cases top
    | some o' =>
      rw [there] at below
      rw [there'] at top
      obtain ⟨placeless, parent⟩ := Bool.and_eq_true_iff.mp below
      obtain ⟨placeless', parent'⟩ := Bool.and_eq_true_iff.mp top
      have parent := beq_iff_eq.mp parent
      have parent' := beq_iff_eq.mp parent'
      refine .mk (keeps _ _ known there) (Object.own?_of_isPlaceless placeless i) fun p here => ?_
      obtain rfl : above = p := Option.some.inj (parent.symm.trans here)
      refine .mk (keeps _ _ known' there') (Object.own?_of_isPlaceless placeless' i) fun p here => ?_
      rw [parent'] at here
      cases here

/-- **Every text has the methods of texts.** -/
theorem Realm.textMethods : ∀ entry ∈ TextMethod.all,
    (initial.builtin? Well.text (Key.ofString entry.1)).any fun found =>
      found.1 != Well.global && found.2 == .text entry.2.1 := by
  decide +kernel

/-- **Every pattern has the methods of patterns.** -/
theorem Realm.patternMethods : ∀ entry ∈ PatternMethod.all,
    (initial.builtin? Well.pattern (Key.ofString entry.1)).any fun found =>
      found.1 != Well.global && found.2 == .pattern entry.2.1 := by
  decide +kernel

/-- What makes texts is called `String`. -/
theorem Realm.makesText :
    (initial.builtin? Well.global (Key.ofUnits (Units.ofString "String"))).any fun found =>
      found.2 == .make .text := by
  decide +kernel

/-- An array has no places but those of its items. -/
theorem Realm.placeless :
    ((initial.objects[Well.array]?).any fun o => o.isPlaceless && o.parent == some Well.object) ∧
      (initial.objects[Well.object]?).any fun o => o.isPlaceless && o.parent == none := by
  decide +kernel

end Script

/-! ## Machines -/

/-- **A machine with everything in its place**: the objects that every script finds, the maker of texts,
the host functions, and the functions of the library. -/
structure Script.Machine.Furnished (m : Machine) : Prop where
  realm : KeepsOthers Realm.initial.objects m.objects
  text : ∃ r, m.Supplies (Units.ofString "String") r (.builtin (.make .text))
  host : ∀ (i : Nat) (native : Native), NativeTable.standard[i]? = some native →
    ∃ r, m.Supplies (Units.ofString native.name) r (.host i)
  library : ∀ f ∈ Library.functions, ∃ r, m.Supplies f.info.name r (.script f globalScope .undefined)

namespace Script.Machine.Furnished

variable {m after : Machine} (furnished : m.Furnished)
include furnished

/-- It stays furnished while it grows. -/
theorem keep (keeps : m.Keeps after) : after.Furnished where
  realm q o other there := keeps.objects q o (furnished.realm q o other there)
  text := furnished.text.imp fun _ supplies => supplies.keep keeps
  host i native entry := (furnished.host i native entry).imp fun _ supplies => supplies.keep keeps
  library f mem := (furnished.library f mem).imp fun _ supplies => supplies.keep keeps

theorem textMethod {name : String} {method : TextMethod} {length : Nat}
    (entry : (name, method, length) ∈ TextMethod.all) :
    ∃ r, m.HasMethod Well.text (Key.ofString name) r (.text method) :=
  have found := Realm.textMethods _ entry
  KeepsOthers.hasMethod Realm.initial m furnished.realm (Nat.succ_ne_zero _) found

theorem patternMethod {name : String} {method : PatternMethod} {length : Nat}
    (entry : (name, method, length) ∈ PatternMethod.all) :
    ∃ r, m.HasMethod Well.pattern (Key.ofString name) r (.pattern method) :=
  have found := Realm.patternMethods _ entry
  KeepsOthers.hasMethod Realm.initial m furnished.realm (Nat.succ_ne_zero _) found

/-- An array has no places but those of its items. -/
theorem lacks (i : Nat) : m.Lacks (.index i) Well.array :=
  KeepsOthers.lacks Realm.initial m furnished.realm (Nat.succ_ne_zero _) (Nat.succ_ne_zero _)
    Realm.placeless.1 Realm.placeless.2 i

end Script.Machine.Furnished

/-- **A call of a function of the library** gives what its body returns. -/
theorem Script.Machine.Furnished.answers {m : Machine} (furnished : m.Furnished) {s : Stmt} {f : Function}
    (is : s = .function f) (mem : s ∈ Library.program.body) {h : Embedding} {levels : Nat}
    {arguments : List Value} {v : Value}
    (body : ∀ s, Eval.Leads (Running m s (Eval.functionNames f arguments none))
      (Stmt.execAll ⟨Eval.caller h levels, h.rounds⟩ f.body ⟨s, .object Well.global⟩)
      fun c m' => c = .returned v ∧ ∃ names, Running m s names m') :
    m.Answers (Eval.caller h (levels + 1)) f.info.name arguments v := by
  have mem : f ∈ Library.functions := List.mem_filterMap.mpr ⟨s, mem, by rw [is]⟩
  have flat : ∀ f ∈ Library.functions, (Stmt.functions f.body).isEmpty := by decide
  have modest := Library.declares.modest f mem
  obtain ⟨r, supplied⟩ := furnished.library f mem
  obtain ⟨after, ran, extends'⟩ := Eval.call_script supplied modest.arrow modest.usesArguments
    (List.isEmpty_iff.mp (flat f mem)) body
  exact ⟨r, _, after, supplied, ran, extends'⟩

/-! ## Engines that start -/

/-- The names of what a furnished machine has in its place. -/
def NativeTable.furnishings : List Units :=
  Units.ofString "String" :: (NativeTable.standard.names.map Units.ofString ++
    Library.functions.map (·.info.name))

namespace Engine

/-- **An engine with everything in its place**, and with levels left for the calls of the library. -/
structure Furnished (e : Engine) : Prop where
  natives : e.natives = .standard
  machine : e.machine.Furnished
  levels : e.machine.depth + 3 ≤ e.limits.levels

variable {limits : Limits} {w : World} {content : String} {e : Engine} {fs : List Function} {x : Units}
  {r : Ref} {code : Code} {m after : Machine}

/-- A name goes on to stand for its function when a script has declared functions of other names. -/
theorem runScript_stands {program : Program} (declares : program.Declares fs)
    (other : x ∉ fs.map (·.info.name)) {h : Embedding} {levels : Nat}
    (ran : Eval.runScript h levels program m = .ok () after)
    (stands : Stands x r code m.objects m.scopes ∧ Scope.Free x m.scopes globalScope) :
    Stands x r code after.objects after.scopes ∧ Scope.Free x after.scopes globalScope := by
  have keeps : (standing x r code).Keeps m.depth 0 _ (Eval.runScript h levels program) :=
    declares.runScript_other fun _ => other
  obtain ⟨_, holds, later⟩ := keeps.of_ok (standing_holds.mpr stands.1) stands.2 ran
  exact ⟨standing_holds.mp holds, later.free stands.2⟩

/-- Giving scripts host functions leaves all objects but the global one as they are. -/
theorem register_keepsOthers {table : NativeTable} {index : Nat}
    (registered : NativeTable.register m index table = .ok after) :
    KeepsOthers m.objects after.objects := by
  induction table generalizing m index with
  | nil =>
    cases registered
    exact .refl _
  | cons native rest ih =>
    rw [NativeTable.register] at registered
    split at registered
    next next added =>
      exact (Eval.Contained.addHost _ _ _ _ _ _ (Eval.ok_of_finish added)).trans (ih registered)
    all_goals cases registered

/-- **What stands in its place when the host functions have been given to scripts.** -/
theorem register_furnishes (flawless : NativeTable.standard.flaw? [] = none)
    (given : NativeTable.standard.register Realm.initial 0 = .ok after) :
    (∃ r, Stands (Units.ofString "String") r (.builtin (.make .text)) after.objects after.scopes ∧
        Scope.Free (Units.ofString "String") after.scopes globalScope) ∧
      (∀ i native, NativeTable.standard[i]? = some native →
        ∃ r, Stands (Units.ofString native.name) r (.host i) after.objects after.scopes ∧
          Scope.Free (Units.ofString native.name) after.scopes globalScope) ∧
      ∀ x, Apart x after.objects after.scopes ∧ Scope.Free x after.scopes globalScope := by
  refine ⟨?_, fun i native entry => ?_, fun x => ?_⟩
  · obtain ⟨apart, free⟩ := initial_apart (Units.ofString "String")
    obtain ⟨r, refers⟩ := Refers.of_builtin? Realm.initial apart.plain Realm.makesText
    have others : ∀ native ∈ NativeTable.standard,
        (standing (Units.ofString "String") r (.builtin (.make .text))).free
          (Key.ofUnits (Units.ofString native.name)) := by
      intro native mem _ same
      have named : native.name ∈ NativeTable.standard.names := List.mem_map_of_mem mem
      have same := Units.ofString_injective (Key.ofUnits_injective same)
      exact absurd (same ▸ named) (by decide)
    obtain ⟨_, stands, later⟩ := NativeTable.register_keeps others
      (standing_holds.mpr ⟨apart, refers⟩) given
    exact ⟨r, standing_holds.mp stands, later.free free⟩
  · obtain ⟨apart, free⟩ := initial_apart (Units.ofString native.name)
    have distinct := (NativeTable.flaw?_eq_none_iff.mp flawless).2.1
    obtain ⟨r, stands, free⟩ := NativeTable.register_stands entry distinct apart free given
    exact ⟨r, Nat.zero_add i ▸ stands, free⟩
  · obtain ⟨apart, free⟩ := initial_apart x
    obtain ⟨_, ⟨apart, _⟩, later⟩ := NativeTable.register_keeps
      (fun native _ => about.free_none x _) apart.about_none given
    exact ⟨apart, later.free free⟩

/-- **A machine with everything in its place** when the engine starts. -/
theorem machine_furnished_of_start (started : start .standard limits w content = .ok e)
    (declares : ∀ program, Program.parse? content.toList = some program → program.Declares fs)
    (others : ∀ x ∈ NativeTable.furnishings, x ∉ fs.map (·.info.name)) : e.machine.Furnished := by
  cases starts_iff.mpr started with
  | @ready registered library m flawless given ran loaded =>
    obtain ⟨program, parsed, loaded⟩ := runScript_of_load loaded
    obtain ⟨_, ⟨⟩, ran⟩ := runScript_of_load ran
    have declares := declares program parsed
    obtain ⟨text, host, apart⟩ := register_furnishes flawless given
    -- What a name stands for behind the library is what it stands for in the end.
    have last {x : Units} {code : Code} (named : x ∈ NativeTable.furnishings)
        (there : ∃ r, Stands x r code library.objects library.scopes ∧
          Scope.Free x library.scopes globalScope) : ∃ r, m.Supplies x r code := by
      obtain ⟨r, stands⟩ := there
      obtain ⟨stands, free⟩ := runScript_stands declares (others x named) loaded stands
      exact ⟨r, stands.toRefers, stands.plain, free⟩
    have through {x : Units} {code : Code} (other : x ∉ Library.functions.map (·.info.name))
        (there : ∃ r, Stands x r code registered.objects registered.scopes ∧
          Scope.Free x registered.scopes globalScope) :
        ∃ r, Stands x r code library.objects library.scopes ∧
          Scope.Free x library.scopes globalScope :=
      there.imp fun r stands => runScript_stands Library.declares other ran stands
    refine ⟨?_, ?_, fun i native entry => ?_, fun f mem => ?_⟩
    · exact ((register_keepsOthers given).trans (Eval.Contained.runScript Library.declares _ _ _ _ _ ran)).trans
        (Eval.Contained.runScript declares _ _ _ _ _ loaded)
    · exact last List.mem_cons_self (through (by decide +kernel) text)
    · have named : native.name ∈ NativeTable.standard.names :=
        List.mem_map_of_mem (List.mem_of_getElem? entry)
      have apart : ∀ name ∈ NativeTable.standard.names,
          Units.ofString name ∉ Library.functions.map (·.info.name) := by decide +kernel
      exact last (List.mem_cons_of_mem _ (List.mem_append_left _ (List.mem_map_of_mem named)))
        (through (apart _ named) (host i native entry))
    · obtain ⟨apart, free⟩ := apart f.info.name
      exact last (List.mem_cons_of_mem _ (List.mem_append_right _ (List.mem_map_of_mem mem)))
        (Library.declares.runScript_own mem apart free ran)

/-- **An engine that starts has everything in its place**, when its script declares functions of other
names and there are levels for the calls of the library. -/
theorem furnished_of_start (started : start .standard limits w content = .ok e)
    (declares : ∀ program, Program.parse? content.toList = some program → program.Declares fs)
    (others : ∀ x ∈ NativeTable.furnishings, x ∉ fs.map (·.info.name)) (levels : 3 ≤ limits.levels) :
    e.Furnished := by
  obtain ⟨natives, same, depth⟩ := start_depth NativeTable.standard_steady started
  refine ⟨natives, machine_furnished_of_start started declares others, ?_⟩
  rw [depth, same, Nat.zero_add]
  exact levels

end Engine

end ProxyAutoConfig
