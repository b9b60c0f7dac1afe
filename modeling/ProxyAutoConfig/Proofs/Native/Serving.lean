import ProxyAutoConfig.Proofs.Native.Fault
import ProxyAutoConfig.Proofs.Native.HostFunction
import ProxyAutoConfig.Proofs.Script.Declarations
import ProxyAutoConfig.Proofs.Script.Moment
import ProxyAutoConfig.Proofs.Session.Steps
import ProxyAutoConfig.Proofs.Text.Units

/-!
# What scripts call

Host functions, the functions of the library and those of the script share one global object, and they
are put there one after the other. So the name of a host function stands for it when the table has
been given to scripts (`NativeTable.register_stands`), and for the library's function once the library
has run, if the library has one of that name (`Engine.loadLibrary_stands`). A script that spares the name
leaves it at that, and so does every lookup (`Session.exists_stands_after`).

**The law** (`Session.native_called`): where the library has no function of the name, a call of the name
runs the host function, wherever it stands in the script and whatever has been asked before.
-/

namespace ProxyAutoConfig

open ProxyAutoConfig.Script ProxyAutoConfig.Text Discipline Condition

/-! ## The table -/

namespace NativeTable

/-- **A host function that has been added** is the one for which its name stands. -/
theorem addHost_refers {native : Native} {index : Nat} {m after : Machine}
    (apart : Apart (Units.ofString native.name) m.objects m.scopes)
    (added : Realm.addHost native.name native.length index m = .ok () after) :
    ∃ r, Refers (Units.ofString native.name) r (.host index) after.objects := by
  by_cases fixed : m.Fixes native.key
  · obtain ⟨o, thrown⟩ := Native.exists_addHost_of_fixed fixed
    rw [thrown] at added
    cases added
  · rw [Native.addHost_of_free fixed] at added
    cases added
    obtain ⟨global, there, _⟩ := apart.plain
    refine ⟨m.objects.size, .of_define ⟨global, ?_⟩ ?_ rfl⟩
    · rw [Machine.getElem?_withObject apart.global_lt, there]
    · rw [Machine.withObject, Array.getElem?_push, if_pos rfl]
      exact ⟨_, rfl, rfl⟩

/-- **When a table has been given to scripts, its names stand for its functions.** -/
theorem register_stands {table : NativeTable} {i index : Nat} {native : Native}
    (entry : table[i]? = some native) (distinct : table.names.Nodup) {m after : Machine}
    (apart : Apart (Units.ofString native.name) m.objects m.scopes)
    (free : Scope.Free (Units.ofString native.name) m.scopes globalScope)
    (registered : register m index table = .ok after) :
    ∃ r, Stands (Units.ofString native.name) r (.host (index + i)) after.objects after.scopes ∧
      Scope.Free (Units.ofString native.name) after.scopes globalScope := by
  induction table generalizing i index m with
  | nil => cases entry
  | cons head rest ih =>
    obtain ⟨new, distinct⟩ := List.nodup_cons.mp distinct
    rw [register] at registered
    split at registered
    case h_1 next added =>
      have added := Eval.ok_of_finish added
      have keeps : (about (Units.ofString native.name) none).Keeps m.depth 0 .any
        (Realm.addHost head.name head.length index) := .addHost (about.free_none _ _) _ _
      obtain ⟨_, ⟨kept, _⟩, later⟩ := keeps.of_ok apart.about_none trivial added
      cases i with
      | zero =>
        cases entry
        obtain ⟨r, refers⟩ := addHost_refers apart added
        have others : ∀ other ∈ rest, (standing (Units.ofString native.name) r (.host index)).free
            (Key.ofUnits (Units.ofString other.name)) := by
          intro other mem _ same
          refine new (List.mem_map.mpr ⟨other, mem, ?_⟩)
          exact Units.ofString_injective (Key.ofUnits_injective same)
        obtain ⟨_, stands, last⟩ :=
          register_keeps others (standing_holds.mpr ⟨kept, refers⟩) registered
        exact ⟨r, standing_holds.mp stands, last.free (later.free free)⟩
      | succ i =>
        obtain ⟨r, stands, free⟩ := ih entry distinct kept (later.free free) registered
        rw [Nat.succ_add_eq_add_succ] at stands
        exact ⟨r, stands, free⟩
    all_goals cases registered

end NativeTable

/-! ## The library -/

namespace Library

/-- The functions of the library. -/
def functions : List Function :=
  Stmt.functions program.body

/-- The library's function of a name. -/
def function? (x : Units) : Option Function :=
  functions.find? (·.info.name == x)

/-- **The library declares functions** that assign to their own names only. -/
theorem declares : program.Declares functions where
  body := rfl
  hoisted := rfl
  modest := by decide +kernel
  distinct := by decide +kernel

theorem mem_of_function? {x : Units} {f : Function} (found : function? x = some f) :
    f ∈ functions ∧ f.info.name = x := by
  have named := List.find?_some found
  exact ⟨List.mem_of_find?_eq_some found, beq_iff_eq.mp named⟩

theorem notMem_of_function? {x : Units} (none' : function? x = none) :
    x ∉ functions.map (·.info.name) := by
  intro mem
  obtain ⟨f, mem, same⟩ := List.mem_map.mp mem
  exact List.find?_eq_none.mp none' f mem (beq_iff_eq.mpr same)

end Library

/-- **What scripts call** under the name of the host function at a place of the table: the library's
function of that name if there is one. -/
def NativeTable.calledCode (x : Units) (i : Nat) : Code :=
  match Library.function? x with
  | some f => .script f globalScope .undefined
  | none => .host i

namespace Engine

variable {natives : NativeTable} {limits : Limits} {w : World} {x : Units} {i : Nat}

/-- **When the library has run**, a name stands for its function of that name, or else for the host
function for which it stood. -/
theorem loadLibrary_stands {m after : Machine} {r : Ref}
    (stands : Stands x r (.host i) m.objects m.scopes) (free : Scope.Free x m.scopes globalScope)
    (loaded : loadLibrary natives limits w m = .ok after) :
    ∃ r, Stands x r (NativeTable.calledCode x i) after.objects after.scopes ∧
      Scope.Free x after.scopes globalScope := by
  obtain ⟨_, ⟨⟩, ran⟩ := runScript_of_load loaded
  rw [NativeTable.calledCode]
  cases own : Library.function? x with
  | some f =>
    obtain ⟨mem, rfl⟩ := Library.mem_of_function? own
    exact Library.declares.runScript_own mem stands.toApart free ran
  | none =>
    have keeps : (standing x r (.host i)).Keeps m.depth 0 _
        (Eval.runScript (natives.embedding w limits.rounds) limits.levels Library.program) :=
      Library.declares.runScript_other fun _ => Library.notMem_of_function? own
    obtain ⟨_, holds, later⟩ := keeps.of_ok (standing_holds.mpr stands) free ran
    exact ⟨r, standing_holds.mp holds, later.free free⟩

/-- What every script finds leaves all names alone. -/
theorem initial_apart (x : Units) :
    Apart x Realm.initial.objects Realm.initial.scopes ∧
      Scope.Free x Realm.initial.scopes globalScope := by
  have scriptless : ∀ o ∈ Realm.known, ∀ f s self, o.code? ≠ some (.script f s self) := by
    simp [Realm.known, Object.code?, ErrorKind.all]
  have bare : Apart x Realm.bare.objects Realm.bare.scopes := by
    refine ⟨⟨_, rfl, rfl⟩, fun q o f s self there held => absurd held (scriptless o ?_ f s self)⟩
    exact List.mem_toArray.mp (Array.mem_of_getElem? there)
  have free : Scope.Free x Realm.bare.scopes globalScope :=
    .mk rfl rfl fun _ around => absurd around (Option.some_ne_none _).symm
  obtain ⟨_, ⟨apart, _⟩, later⟩ := initial_keeps (about.free_none x) bare.about_none
  exact ⟨apart, later.free free⟩

/-- **What a name stands for when an engine starts** whose script spares the name. -/
theorem start_stands {content : String} {e : Engine} {native : Native}
    (started : start natives limits w content = .ok e) (entry : natives[i]? = some native)
    (same : Units.ofString native.name = x)
    (spares : ∀ program, Program.parse? content.toList = some program → program.Spares x)
    (keeps : ∀ r code, natives.Keeps (.standing x r code)) :
    ∃ r, Stands x r (NativeTable.calledCode x i) e.machine.objects e.machine.scopes := by
  cases starts_iff.mpr started with
  | @ready registered furnished m flawless given ran loaded =>
    obtain ⟨apart, free⟩ := initial_apart (Units.ofString native.name)
    have distinct := (NativeTable.flaw?_eq_none_iff.mp flawless).2.1
    obtain ⟨_, stands, free⟩ := NativeTable.register_stands entry distinct apart free given
    rw [Nat.zero_add, same] at stands
    rw [same] at free
    obtain ⟨r, stands, free⟩ := loadLibrary_stands stands free ran
    obtain ⟨program, parsed, ran⟩ := runScript_of_load loaded
    have host := NativeTable.embedding_keeps (keeps r (NativeTable.calledCode x i)) w limits.rounds
      limits.levels
    have run : (standing x r (NativeTable.calledCode x i)).Keeps furnished.depth limits.levels
        ((about.site x _).here globalScope)
        (Eval.runScript (natives.embedding w limits.rounds) limits.levels program) :=
      .runScript (about.enters _ _) host (.refl _) (spares program parsed)
    obtain ⟨_, holds, _⟩ := run.of_ok (standing_holds.mpr stands) free ran
    exact ⟨r, standing_holds.mp holds⟩

/-- How a script runs in the engine, at a level. -/
def surroundings (e : Engine) (w : World) (depth : Nat) : Surroundings :=
  Eval.surroundings (e.natives.embedding w e.limits.rounds) e.limits.levels depth

/-- How host functions of the engine make calls, at a level. -/
def beside (e : Engine) (w : World) (depth : Nat) : Caller :=
  Eval.beside (e.natives.embedding w e.limits.rounds) e.limits.levels depth

/-- **A lookup runs the decision function** one level below, where it is a function of a script. -/
theorem calls_eq {e : Engine} (ready : e.Ready) {q : Ref} {o : Object} {f : Function} {s : Nat}
    {own : Value} (there : e.machine.objects[q]? = some o)
    (held : o.code? = some (.script f s own)) (w : World) (arguments : List Value) :
    e.calls w (.apply (.object q) .undefined arguments) e.machine =
      Eval.nested (Eval.runFunction (e.surroundings w (e.machine.depth + 1)) f s
        (if f.info.arrow then own else .object Well.global) arguments) e.machine := by
  rw [calls, Eval.hostCaller_eq _ ready, Eval.perform_apply there held, Eval.applyCode,
    Nat.sub_sub]
  cases f.info.arrow <;> rfl

/-- **Scripts that spare the name call the host function by it.** -/
structure Serves (e : Engine) (x : Units) (r : Ref) (i : Nat) (native : Native) : Prop where
  /-- The name stands for the host function. -/
  stands : Stands x r (.host i) e.machine.objects e.machine.scopes
  /-- A lookup runs the decision function, where that is a function of a script. -/
  decides : ∀ {q : Ref} {o : Object} {f : Function} {s : Nat} {own : Value}, e.Ready →
    e.machine.objects[q]? = some o → o.code? = some (.script f s own) → ∀ w arguments,
      e.calls w (.apply (.object q) .undefined arguments) e.machine =
        Eval.nested (Eval.runFunction (e.surroundings w (e.machine.depth + 1)) f s
          (if f.info.arrow then own else .object Well.global) arguments) e.machine
  /-- Whenever a function of a script is run that spares the name, the decision function among them,
  its body runs from a moment of the name. -/
  begins : ∀ {m : Machine} {q : Ref} {o : Object} {f : Function} {s : Nat} {own : Value},
    Stands x r (.host i) m.objects m.scopes → m.objects[q]? = some o →
      o.code? = some (.script f s own) → f.Spares x → ∀ surroundings self arguments,
        ∃ frame start, Moment x r (.host i) frame start ∧ start.depth = m.depth ∧
          Eval.runFunction surroundings f s self arguments m = (do
            Eval.startFunctions f.body frame
            match ← Stmt.execAll surroundings f.body frame with
            | .returned v => return v
            | _ => return .undefined) start
  /-- Statements lead to moments of the name. -/
  runs : ∀ {w frame m}, Moment x r (.host i) frame m → ∀ body : List Stmt,
    (∀ t ∈ Stmt.allTouches body, t.Spares x) →
      Moment.Behind x r (.host i) frame (Stmt.execAll (e.surroundings w m.depth) body frame m)
  /-- Expressions lead to moments of the name. -/
  evaluates : ∀ {w frame m}, Moment x r (.host i) frame m → ∀ expr : Expr,
    (∀ t ∈ expr.touches, t.Spares x) →
      Moment.Behind x r (.host i) frame (expr.eval (e.surroundings w m.depth) frame m)
  /-- Blocks are entered at moments of the name. -/
  enters : ∀ {frame m}, Moment x r (.host i) frame m → ∀ body : List Stmt,
    (∀ t ∈ Stmt.allTouches body, t.Spares x) → ∀ inner after,
      Eval.enterBlock body frame m = .ok inner after → Moment x r (.host i) inner after
  /-- **At a moment of the name a call of it runs the host function**, with the values of the arguments
  that stand in the call, as long as a level is left for calls. -/
  calls : ∀ {w frame m}, Moment x r (.host i) frame m → m.depth < e.limits.levels →
    ∀ arguments : List Expr, (∀ t ∈ Expr.allTouches arguments, t.Spares x) →
      (Expr.call (.name x) arguments).eval (e.surroundings w m.depth) frame m =
        (do
          let values ← Expr.evalAll (e.surroundings w m.depth) arguments frame
          native.run w (Eval.toText (e.beside w m.depth)) values) m

/-- Where the name stands for a host function, scripts that spare it call the function by it. -/
theorem serves_of_stands {e : Engine} {r : Ref} {native : Native}
    (entry : e.natives[i]? = some native) (keeps : e.natives.Keeps (.standing x r (.host i)))
    (stands : Stands x r (.host i) e.machine.objects e.machine.scopes) : e.Serves x r i native where
  stands := stands
  decides ready there held := calls_eq ready there held
  begins stands there held spares := Moment.runFunction_eq stands there held spares
  runs moment _ spares := moment.stmts (NativeTable.embedding_keeps keeps _ _ _) spares
  evaluates moment _ spares := moment.expr (NativeTable.embedding_keeps keeps _ _ _) spares
  enters moment _ spares _ _ entered := moment.enterBlock spares entered
  calls {w frame m} moment left arguments spares := by
    have host := NativeTable.embedding_keeps keeps w e.limits.rounds e.limits.levels
    have run : (e.natives.embedding w e.limits.rounds).run i (e.beside w m.depth) =
        native.run w (Eval.toText (e.beside w m.depth)) := by
      funext values
      simp only [NativeTable.embedding, entry]
    rw [surroundings, moment.call_host host left spares, ← run]
    rfl

end Engine

namespace Session

variable {supply : Source.Supply} {w : World} {options : Options} {specifier : String} {s : Session}
  {i : Nat} {native : Native}

/-- **What a name stands for throughout a session** whose script spares the name: the library's function
of that name if there is one, and else the host function. -/
theorem exists_stands_after
    (opened : (Session.open supply w options specifier).record.1 = .ok s)
    (entry : options.natives[i]? = some native)
    (spares : ∀ program, Program.parse? s.content.toList = some program →
      program.Spares (Units.ofString native.name))
    (keeps : ∀ r code, options.natives.Keeps (.standing (Units.ofString native.name) r code)) :
    ∃ r, ∀ w' steps, let e := (s.after w' steps).engine
      e.natives = options.natives ∧ Stands (Units.ofString native.name) r
        (NativeTable.calledCode (Units.ofString native.name) i) e.machine.objects e.machine.scopes := by
  obtain ⟨_, loaded, _, _, started, content⟩ := exists_prepared opened
  have started := Engine.starts_iff.mp started
  rw [← content] at started
  obtain ⟨r, stands⟩ := Engine.start_stands started entry rfl spares keeps
  obtain ⟨natives, _⟩ := Engine.given_of_start started
  refine ⟨r, fun w' steps => ?_⟩
  obtain ⟨machine, kept⟩ := after_eq s w' steps
  have holds := after_keeps w' (about.enters _ _) (natives ▸ keeps r _) (standing_holds.mpr stands) steps
  refine ⟨?_, standing_holds.mp holds⟩
  rw [kept]
  exact natives

/-- **Every host function is what scripts call by its name**, unless the library has a function of that
name: in a session whose script spares the name, whatever has been asked before, a call of the name
runs the function of that entry of the table with the arguments of the call. -/
theorem native_called
    (opened : (Session.open supply w options specifier).record.1 = .ok s)
    (entry : options.natives[i]? = some native)
    (free : Library.function? (Units.ofString native.name) = none)
    (spares : ∀ program, Program.parse? s.content.toList = some program →
      program.Spares (Units.ofString native.name))
    (keeps : ∀ r code, options.natives.Keeps (.standing (Units.ofString native.name) r code)) :
    ∃ r, ∀ w' steps,
      (s.after w' steps).engine.Serves (Units.ofString native.name) r i native := by
  obtain ⟨r, stands⟩ := exists_stands_after opened entry spares keeps
  refine ⟨r, fun w' steps => ?_⟩
  obtain ⟨natives, stands⟩ := stands w' steps
  rw [NativeTable.calledCode, free] at stands
  exact Engine.serves_of_stands (natives ▸ entry) (natives ▸ keeps r _) stands

/-- A host function that gives back the text that it is given. -/
def echo (name : String) : Native :=
  .ofText name fun _ text => .ofString text

/-- Open a session whose script gives such a function a text, and decides what it gets back. -/
def openedEchoing (name : String) : Outcome Session :=
  (Session.open (.ofFiles []) (World.isolated 0 0)
    { Options.standard with natives := [echo name] }
    ("function FindProxyForURL(url, host) \x7b return " ++ name ++ "('x'); \x7d")).record.1

/-- The session is opened, and its script spares the name. -/
theorem exists_openedEchoing {name : String} {outcome : Outcome String}
    (runs : (openedEchoing name).map (fun s =>
      ((Program.parse? s.content.toList).all
        (fun program => program.touches.all (Touch.seenToSpare (Units.ofString name))),
        (s.use (decision (World.isolated 0 0) "http://h/")).1)) = .ok (true, outcome)) :
    ∃ s, openedEchoing name = .ok s ∧
      (∀ program, Program.parse? s.content.toList = some program →
        program.Spares (Units.ofString name)) ∧
      (s.use (decision (World.isolated 0 0) "http://h/")).1 = outcome := by
  obtain ⟨s, opened, same⟩ := Outcome.map_eq_ok.mp runs
  obtain ⟨seen, decided⟩ := Prod.mk.inj same
  refine ⟨s, opened, fun program parsed => Program.spares_of_seenToSpare ?_, decided⟩
  rw [parsed] at seen
  exact seen

/-- So a script that asks such a function decides what it answers. -/
theorem native_called_echo : ∃ s, openedEchoing "probe" = .ok s ∧
    (s.use (decision (World.isolated 0 0) "http://h/")).1 = .ok "x" ∧
      ∃ r, ∀ w steps, (s.after w steps).engine.Serves (Units.ofString "probe") r 0 (echo "probe") := by
  obtain ⟨s, opened, spares, decided⟩ :=
    @exists_openedEchoing "probe" (.ok "x") (by decide +kernel)
  have free : (Library.function? (Units.ofString "probe")).isNone := by decide +kernel
  have entry : [echo "probe"][0]? = some (echo "probe") := rfl
  exact ⟨s, opened, decided, native_called opened entry (Option.isNone_iff_eq_none.mp free) spares
    fun _ _ => List.forall_mem_singleton.mpr (Native.ofText_keeps _ _)⟩

/-- **The library's function is called in place of the host function** of the name `alert`, though the
script spares the name: the decision is that of a function that returns nothing. -/
theorem native_not_called_alert : ∃ s, openedEchoing "alert" = .ok s ∧
    (∀ program, Program.parse? s.content.toList = some program →
      program.Spares (Units.ofString "alert")) ∧
    (s.use (decision (World.isolated 0 0) "http://h/")).1 =
      .error (.evaluation "`FindProxyForURL` returned no value") :=
  @exists_openedEchoing "alert" _ (by decide +kernel)

/-- **A function of the library is what scripts call by its name**, whatever the table has under that
name. -/
theorem library_called
    (opened : (Session.open supply w options specifier).record.1 = .ok s)
    (entry : options.natives[i]? = some native) {f : Function}
    (own : Library.function? (Units.ofString native.name) = some f)
    (spares : ∀ program, Program.parse? s.content.toList = some program →
      program.Spares (Units.ofString native.name))
    (keeps : ∀ r code, options.natives.Keeps (.standing (Units.ofString native.name) r code)) :
    ∃ r, ∀ w' steps, let m := (s.after w' steps).engine.machine
      Stands (Units.ofString native.name) r (.script f globalScope .undefined) m.objects m.scopes := by
  obtain ⟨r, stands⟩ := exists_stands_after opened entry spares keeps
  refine ⟨r, fun w' steps => ?_⟩
  obtain ⟨_, stands⟩ := stands w' steps
  rw [NativeTable.calledCode, own] at stands
  exact stands

end Session

end ProxyAutoConfig
