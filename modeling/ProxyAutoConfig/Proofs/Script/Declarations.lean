import ProxyAutoConfig.Proofs.Script.Standing

/-!
# Scripts of function declarations

A script may do nothing but declare functions that assign to their own parameters and variables only
(`Function.Modest`). Every name is left alone by it. A name that none of the functions has stands for
what it stood for before (`Program.Declares.runScript_other`); the name of one of the functions stands
for that function, whatever it stood for before (`Program.Declares.runScript_own`).
-/

namespace ProxyAutoConfig.Script

open ProxyAutoConfig.Text Discipline Condition

/-! ## Functions that assign to their own names only -/

/-- The syntax assigns to one of the names, and does nothing else. -/
def Touch.assignsTo (names : List Units) : Touch → Bool
  | .assign y => names.contains y
  | _ => false

/-- **A function that assigns to its own names only**, which are its parameters and its variables. -/
structure Function.Modest (f : Function) : Prop where
  arrow : f.info.arrow = false
  ownName : f.info.ownName = false
  usesArguments : f.info.usesArguments = false
  assigns : (Stmt.allTouches f.body).all (Touch.assignsTo (f.info.parameters ++ f.info.hoisted))

instance (f : Function) : Decidable f.Modest :=
  decidable_of_iff
    (f.info.arrow = false ∧ f.info.ownName = false ∧ f.info.usesArguments = false ∧
      (Stmt.allTouches f.body).all (Touch.assignsTo (f.info.parameters ++ f.info.hoisted)))
    ⟨fun h => ⟨h.1, h.2.1, h.2.2.1, h.2.2.2⟩,
      fun h => ⟨h.arrow, h.ownName, h.usesArguments, h.assigns⟩⟩

/-- A function of the outermost scope is made the property of its name. -/
def Eval.declare (f : Function) : Eval Unit := do
  declareFunction f.info.name (← makeFunction f globalFrame)

namespace Function.Modest

variable {f : Function} (modest : f.Modest)
include modest

/-- Such a function leaves every name alone. -/
theorem tame (x : Units) : f.Spares x ∨ f.Confines x := by
  have names : f.info.names = f.info.parameters ++ f.info.hoisted := by
    simp [FunctionInfo.names, modest.usesArguments, modest.ownName]
  have assigns : ∀ t ∈ Stmt.allTouches f.body,
      ∃ y ∈ f.info.parameters ++ f.info.hoisted, t = .assign y := by
    intro t mem
    have seen := List.all_eq_true.mp modest.assigns t mem
    cases t with
    | assign y => exact ⟨y, List.contains_iff_mem.mp seen, rfl⟩
    | _ => cases seen
  by_cases own : x ∈ f.info.parameters ++ f.info.hoisted
  · refine .inr ⟨own, fun t mem => ?_⟩
    obtain ⟨y, _, rfl⟩ := assigns t mem
    trivial
  · refine .inl fun t mem => ?_
    have ne {y : Units} (mem : y ∈ f.info.parameters ++ f.info.hoisted) : y ≠ x :=
      fun same => own (same ▸ mem)
    rw [f.touches_eq, names] at mem
    rcases List.mem_append.mp mem with mem | mem
    · obtain ⟨y, named, rfl⟩ := List.mem_map.mp mem
      exact ne named
    · obtain ⟨y, named, rfl⟩ := assigns t mem
      exact ne named

theorem makeFunction_eq (frame : Frame) :
    Eval.makeFunction f frame = (do
      let r ← Eval.newFunction (.script f frame.scope .undefined) f.info.name
        f.info.parameters.length
      Eval.withPrototype r true
      return .object r) := by
  simp only [Eval.makeFunction, modest.arrow, modest.ownName, Bool.false_eq_true, if_false, pure_bind]

/-- **The function that is made** is in the heap afterwards. -/
theorem makeFunction_ok (frame : Frame) (m : Machine) :
    ∃ r after, Eval.makeFunction f frame m = .ok (.object r) after ∧
      ∃ o, after.objects[r]? = some o ∧ o.code? = some (.script f frame.scope .undefined) := by
  rw [modest.makeFunction_eq]
  refine ⟨m.objects.size, _, rfl, ?_⟩
  simp only [Array.getElem?_modify, Array.getElem?_push, Array.size_push, Nat.succ_ne_self, if_true,
    if_neg (Nat.ne_of_lt (Nat.lt_succ_self _)), Option.map_some]
  exact ⟨_, rfl, rfl⟩

variable {x : Units} {known : Option (Ref × Code)} {depth top : Nat}

/-- The function is made where it may be called. -/
theorem makeFunction_keeps :
    (about x known).Keeps depth top ((about.site x known).here globalScope)
      (Eval.makeFunction f Eval.globalFrame) := by
  rw [modest.makeFunction_eq]
  refine (newFunction_yields _ _ ?_).bind fun r mine => .bind (.withPrototype mine true) fun _ => .pure _
  rintro _ _ _ ⟨⟩ scopes free
  exact ⟨free, modest.tame x⟩

/-- **A name stays what it is** when a function of another name is declared. -/
theorem declare_keeps (other : known.isSome → f.info.name ≠ x) :
    (about x known).Keeps depth top ((about.site x known).here globalScope) (Eval.declare f) :=
  .bind modest.makeFunction_keeps fun v =>
    .declareFunction (fun some' same => other some' (Key.ofUnits_injective same)) v

/-- **A name stands for the function of that name** once that is declared. -/
theorem declare_refers {m after : Machine} (apart : Apart f.info.name m.objects m.scopes)
    (free : Scope.Free f.info.name m.scopes globalScope) (ran : Eval.declare f m = .ok () after) :
    ∃ r, Refers f.info.name r (.script f globalScope .undefined) after.objects := by
  obtain ⟨r, middle, made, function⟩ := modest.makeFunction_ok Eval.globalFrame m
  have keeps : (about f.info.name none).Keeps m.depth 0 _ (Eval.makeFunction f Eval.globalFrame) :=
    modest.makeFunction_keeps
  obtain ⟨_, ⟨apart, _⟩, _⟩ := keeps.of_ok apart.about_none free made
  rw [Eval.declare, Outcome.bind_of_ok made] at ran
  obtain ⟨found, _, read, rest⟩ := Outcome.exists_of_bind_ok ran
  cases read
  obtain ⟨global, there, _⟩ := apart.plain
  refine ⟨r, ?_⟩
  split at rest
  all_goals
    cases rest
    exact .of_define ⟨global, there⟩ function rfl

end Function.Modest

/-! ## Scripts -/

/-- **A script that declares functions**, and does nothing else. -/
structure Program.Declares (program : Program) (fs : List Function) : Prop where
  body : program.body = fs.map .function
  hoisted : program.hoisted = []
  modest : ∀ f ∈ fs, f.Modest
  distinct : (fs.map (·.info.name)).Nodup

theorem Stmt.functions_map_function (fs : List Function) : functions (fs.map .function) = fs := by
  rw [functions, List.filterMap_map]
  exact List.filterMap_some

theorem Eval.unstarted_map_function (fs : List Function) : unstarted (fs.map .function) = [] := by
  induction fs with
  | nil => rfl
  | cons f rest ih => exact ih

/-- Statements that declare functions do nothing when it is their turn. -/
theorem Discipline.Keeps.functions {D : Discipline} {depth top : Nat} {P : D.Condition}
    (w : Surroundings) (fs : List Function) (frame : Frame) :
    D.Keeps depth top P (Stmt.execAll w (fs.map .function) frame) := by
  induction fs with
  | nil =>
    simp only [List.map_nil, Stmt.execAll]
    exact .pure _
  | cons f rest ih =>
    simp only [List.map_cons, Stmt.execAll, Stmt.exec, pure_bind]
    exact ih

/-- The statements of a script that declares functions. -/
theorem Discipline.Keeps.functionsBody {D : Discipline} {depth top : Nat} {P : D.Condition} (h : Embedding)
    (levels : Nat) (fs : List Function) :
    D.Keeps depth top P (Eval.nested do
      let depth : Nat ← fun m => .ok m.depth m
      let _ ← Stmt.execAll ⟨Eval.caller h (levels - depth), h.rounds⟩ (fs.map .function)
        Eval.globalFrame) :=
  .nested <| .bind (.read _) fun _ => .bind (Keeps.functions _ fs _) fun _ => .pure _

/-- When all functions are declared, the name of one of them stands for it. -/
theorem Function.Modest.forM_declare_own {fs : List Function} {f : Function} (mem : f ∈ fs) (modest : ∀ g ∈ fs, g.Modest)
    (distinct : (fs.map (·.info.name)).Nodup) {m after : Machine}
    (apart : Apart f.info.name m.objects m.scopes)
    (free : Scope.Free f.info.name m.scopes globalScope)
    (ran : fs.forM Eval.declare m = .ok () after) :
    ∃ r, Stands f.info.name r (.script f globalScope .undefined) after.objects after.scopes ∧
      Scope.Free f.info.name after.scopes globalScope := by
  induction fs generalizing m with
  | nil => cases mem
  | cons g rest ih =>
    obtain ⟨first, others⟩ := List.forall_mem_cons.mp modest
    obtain ⟨new, distinct⟩ := List.nodup_cons.mp distinct
    obtain ⟨_, middle, declared, behind⟩ := Outcome.exists_of_bind_ok ran
    have keeps : (about f.info.name none).Keeps m.depth 0 _ (Eval.declare g) :=
      first.declare_keeps nofun
    obtain ⟨_, ⟨kept, _⟩, later⟩ := keeps.of_ok apart.about_none free declared
    rcases List.mem_cons.mp mem with rfl | mem
    · obtain ⟨r, refers⟩ := first.declare_refers apart free declared
      have stands : Stands f.info.name r (.script f globalScope .undefined) middle.objects
        middle.scopes := ⟨kept, refers⟩
      have keeps : (standing f.info.name r (.script f globalScope .undefined)).Keeps middle.depth 0 _
          (rest.forM Eval.declare) := .forM_mem fun g mem =>
        (others g mem).declare_keeps fun _ same => new (List.mem_map.mpr ⟨g, mem, same⟩)
      obtain ⟨_, stands, last⟩ := keeps.of_ok (standing_holds.mpr stands) (later.free free) behind
      exact ⟨r, standing_holds.mp stands, last.free (later.free free)⟩
    · exact ih mem others distinct kept (later.free free) behind

namespace Program.Declares

variable {program : Program} {fs : List Function} (declares : program.Declares fs)
include declares

theorem runScript_eq (h : Embedding) (levels : Nat) :
    Eval.runScript h levels program = (do
      (fs.map (·.info.name)).forM Eval.checkVariable
      fs.forM fun f => Eval.checkFunction f.info.name
      fs.forM Eval.declare
      Eval.nested do
        let depth : Nat ← fun m => .ok m.depth m
        let _ ← Stmt.execAll ⟨Eval.caller h (levels - depth), h.rounds⟩ (fs.map .function)
          Eval.globalFrame) := by
  have hoisted : [].forM Eval.declareVariable = (pure PUnit.unit : Eval PUnit) := rfl
  have lexical (f : Units × Binding → Eval PUnit) : [].forM f = pure PUnit.unit := rfl
  simp only [Eval.runScript, Eval.declareGlobals, declares.body, declares.hoisted,
    Stmt.functions_map_function, Eval.unstarted_map_function, hoisted, lexical, List.append_nil,
    bind_assoc, pure_bind]
  rfl

variable {x : Units} {known : Option (Ref × Code)} {h : Embedding} {levels depth top : Nat}

/-- **A name that none of the functions has** stays what it is. -/
theorem runScript_other (other : known.isSome → x ∉ fs.map (·.info.name)) :
    (about x known).Keeps depth top ((about.site x known).here globalScope)
      (Eval.runScript h levels program) := by
  have declared : ∀ f ∈ fs, (about x known).Keeps depth top
      ((about.site x known).here globalScope) (Eval.declare f) := fun f mem =>
    (declares.modest f mem).declare_keeps fun some' same =>
      other some' (List.mem_map.mpr ⟨f, mem, same⟩)
  rw [declares.runScript_eq]
  exact .bind (.forM (fun _ => .checkVariable _) _) fun _ =>
    .bind (.forM (fun _ => .checkFunction _) _) fun _ =>
      .bind (.forM_mem declared) fun _ => Keeps.functionsBody h levels fs

/-- **The name of one of the functions** stands for that function. -/
theorem runScript_own {f : Function} (mem : f ∈ fs) {m after : Machine}
    (apart : Apart f.info.name m.objects m.scopes)
    (free : Scope.Free f.info.name m.scopes globalScope)
    (ran : Eval.runScript h levels program m = .ok () after) :
    ∃ r, Stands f.info.name r (.script f globalScope .undefined) after.objects after.scopes ∧
      Scope.Free f.info.name after.scopes globalScope := by
  rw [declares.runScript_eq] at ran
  obtain ⟨_, checked, named, ran⟩ := Outcome.exists_of_bind_ok ran
  obtain ⟨_, ready, possible, ran⟩ := Outcome.exists_of_bind_ok ran
  obtain ⟨_, declared, made, ran⟩ := Outcome.exists_of_bind_ok ran
  have checks : (about f.info.name none).Keeps m.depth 0 .any
      ((fs.map (·.info.name)).forM Eval.checkVariable) := .forM (fun _ => .checkVariable _) _
  obtain ⟨_, ⟨apart, _⟩, later⟩ := checks.of_ok apart.about_none trivial named
  have checks : (about f.info.name none).Keeps checked.depth 0 .any
      (fs.forM fun g => Eval.checkFunction g.info.name) := .forM (fun _ => .checkFunction _) _
  obtain ⟨_, ⟨apart, _⟩, last⟩ := checks.of_ok apart.about_none trivial possible
  obtain ⟨r, stands, free⟩ := Function.Modest.forM_declare_own mem declares.modest
    declares.distinct apart (last.free (later.free free)) made
  have body : (standing f.info.name r (.script f globalScope .undefined)).Keeps declared.depth 0 .any
    _ := .functionsBody h levels fs
  obtain ⟨_, stands, later⟩ := body.of_ok (standing_holds.mpr stands) trivial ran
  exact ⟨r, standing_holds.mp stands, later.free free⟩

end Program.Declares

end ProxyAutoConfig.Script
