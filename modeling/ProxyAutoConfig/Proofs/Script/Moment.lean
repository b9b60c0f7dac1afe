import ProxyAutoConfig.Proofs.Script.Standing

/-!
# Moments at which a name is a function

At a moment in the run of a script a name is a function when it stands for the function and no scope
around knows it (`Moment`). The calls of functions that spare the name begin at such moments
(`Moment.begin`), their blocks are entered at such moments (`Moment.enterBlock`), and whatever they run
leads to such moments (`Moment.expr`, `Moment.stmts`). At such a moment a call of the name is a call of
the function with the arguments that stand in it (`Moment.call_host`).
-/

namespace ProxyAutoConfig.Script

open ProxyAutoConfig.Text Discipline Condition

variable {x : Units} {r : Ref} {code : Code} {frame : Frame} {m : Machine}

/-- **The name is the function at this moment.** -/
structure Moment (x : Units) (r : Ref) (code : Code) (frame : Frame) (m : Machine) : Prop where
  stands : Stands x r code m.objects m.scopes
  free : Scope.Free x m.scopes frame.scope

/-- The name is the function behind what has been run; where nothing is run any more, it stands for it
at least. -/
def Moment.Behind (x : Units) (r : Ref) (code : Code) (frame : Frame) {α : Type} :
    EStateM.Result Halt Machine α → Prop
  | .ok _ m | .error (.thrown _) m => Moment x r code frame m
  | .error _ m => Stands x r code m.objects m.scopes

/-- How scripts run at a level. -/
def Eval.surroundings (h : Embedding) (levels depth : Nat) : Surroundings :=
  ⟨caller h (levels - depth), h.rounds⟩

/-- How host functions make calls at a level. -/
def Eval.beside (h : Embedding) (levels depth : Nat) : Caller :=
  callerBeside h (caller h (levels - depth - 1)) (nesting - 1)

namespace Moment

/-- A computation that keeps the discipline of the name leads to moments of the name. -/
theorem behind {α : Type} {depth top : Nat} {z : Eval α} (moment : Moment x r code frame m)
    (keeps : (standing x r code).Keeps depth top ((about.site x _).here frame.scope) z)
    (same : m.depth = depth) : Behind x r code frame (z m) := by
  have ends := keeps.ends m same (standing_holds.mpr moment.stands) moment.free
  cases outcome : z m with
  | ok a after =>
    rw [outcome] at ends
    obtain ⟨_, holds, later, _⟩ := ends
    exact ⟨standing_holds.mp holds, later.free moment.free⟩
  | error halt after =>
    rw [outcome] at ends
    cases halt with
    | broken message => exact standing_holds.mp ends.2
    | limit => exact standing_holds.mp ends.2.1
    | thrown v =>
      obtain ⟨_, holds, later⟩ := ends
      exact ⟨standing_holds.mp holds, later.free moment.free⟩

/-- **The body of a function that spares the name runs from a moment of the name.** -/
theorem runFunction_eq (stands : Stands x r code m.objects m.scopes) {q : Ref} {o : Object}
    {f : Function} {s : Nat} {own : Value} (there : m.objects[q]? = some o)
    (held : o.code? = some (.script f s own)) (spares : f.Spares x) (w : Surroundings) (self : Value)
    (arguments : List Value) :
    ∃ frame start, Moment x r code frame start ∧ start.depth = m.depth ∧
      Eval.runFunction w f s self arguments m = (do
        Eval.startFunctions f.body frame
        match ← Stmt.execAll w f.body frame with
        | .returned v => return v
        | _ => return .undefined) start := by
  have entered {m : Machine} (stands : Stands x r code m.objects m.scopes)
      (lawful : f.Lawful x m.scopes s) {all : Option Value}
      (given : all.isSome = (f.info.usesArguments && !f.info.arrow)) :
      Moment x r code ⟨m.scopes.size, self⟩
        { m with scopes := m.scopes.push ⟨Eval.functionNames f arguments all, some s⟩ } :=
    ⟨⟨stands.toApart.later (.push x _ _), stands.toRefers⟩,
      lawful.free.child (spares.absent arguments given)⟩
  have lawful := stands.lawful q o f s own there held
  unfold Eval.runFunction
  split
  next needed =>
    have keeps : (standing x r code).Keeps m.depth 0 .any (Eval.newArguments arguments) :=
      .newArguments arguments
    cases made : Eval.newArguments arguments m with
    | error halt after => cases made
    | ok v after =>
      obtain ⟨count, holds, later⟩ := keeps.of_ok (standing_holds.mpr stands) trivial made
      have given : (some v).isSome = (f.info.usesArguments && !f.info.arrow) := needed.symm
      have lawful : f.Lawful x after.scopes s := ⟨later.free lawful.free, lawful.tame⟩
      exact ⟨_, _, entered (standing_holds.mp holds) lawful given, count, Outcome.bind_of_ok made⟩
  next unneeded =>
    have given : (none : Option Value).isSome = (f.info.usesArguments && !f.info.arrow) :=
      (Bool.eq_false_iff.mpr unneeded).symm
    exact ⟨_, _, entered stands lawful given, rfl, rfl⟩

/-- **The blocks of statements that spare the name** are entered at moments of the name. -/
theorem enterBlock (moment : Moment x r code frame m) {body : List Stmt}
    (spares : ∀ t ∈ Stmt.allTouches body, t.Spares x) {inner : Frame} {after : Machine}
    (entered : Eval.enterBlock body frame m = .ok inner after) : Moment x r code inner after := by
  have here : ((about.site x (some (r, code))).here frame.scope).Has
    ((about.site x (some (r, code))).here frame.scope) := .refl _
  have gives : (standing x r code).Gives m.depth 0 _ _ (Eval.enterBlock body frame) :=
    enterBlock_gives here spares
  have ends := gives.ends m rfl (standing_holds.mpr moment.stands) moment.free
  rw [entered] at ends
  obtain ⟨_, holds, _, free⟩ := ends
  exact ⟨standing_holds.mp holds, free⟩

section Run

variable (moment : Moment x r code frame m) {h : Embedding} {levels : Nat}
  (host : h.Keeps (standing x r code) levels)
include moment host

/-- **Statements that spare the name** lead to moments of the name. -/
theorem stmts {body : List Stmt} (spares : ∀ t ∈ Stmt.allTouches body, t.Spares x) :
    Behind x r code frame (Stmt.execAll (Eval.surroundings h levels m.depth) body frame m) :=
  moment.behind (.stmts (.caller (about.enters x _) host m.depth) body (.refl _) spares) rfl

/-- **An expression that spares the name** leads to moments of the name. -/
theorem expr {e : Expr} (spares : ∀ t ∈ e.touches, t.Spares x) :
    Behind x r code frame (e.eval (Eval.surroundings h levels m.depth) frame m) :=
  moment.behind (.expr (.caller (about.enters x _) host m.depth) e (.refl _) spares) rfl

end Run

/-- **A call of the name runs the host function** for which it stands, with the arguments that stand in
the call. -/
theorem call_host {i : Nat} (moment : Moment x r (.host i) frame m) {h : Embedding} {levels : Nat}
    (host : h.Keeps (standing x r (.host i)) levels) (left : m.depth < levels)
    {arguments : List Expr} (spares : ∀ t ∈ Expr.allTouches arguments, t.Spares x) :
    (Expr.call (.name x) arguments).eval (Eval.surroundings h levels m.depth) frame m =
      (do
        let values ← Expr.evalAll (Eval.surroundings h levels m.depth) arguments frame
        h.run i (Eval.beside h levels m.depth) values) m := by
  rw [moment.stands.call_name moment.free]
  have keeps : (standing x r (.host i)).Keeps m.depth levels ((about.site x _).here frame.scope)
      (Expr.evalAll (Eval.surroundings h levels m.depth) arguments frame) :=
    .exprs (.caller (about.enters x _) host m.depth) arguments (.refl _) spares
  have behind := moment.behind keeps rfl
  cases outcome : Expr.evalAll (Eval.surroundings h levels m.depth) arguments frame m with
  | error halt after => rw [Outcome.bind_of_error outcome, Outcome.bind_of_error outcome]
  | ok values after =>
    rw [outcome] at behind
    rw [Outcome.bind_of_ok outcome, Outcome.bind_of_ok outcome]
    have called : (Eval.surroundings h levels m.depth).call =
        Eval.perform h (Eval.caller h (levels - m.depth - 1)) (Eval.beside h levels m.depth) := by
      obtain ⟨rest, sum⟩ : ∃ rest, levels - m.depth = rest + 1 := ⟨levels - m.depth - 1, by omega⟩
      simp only [Eval.surroundings, Eval.beside, sum, Nat.add_sub_cancel]
      rfl
    obtain ⟨o, there, held⟩ := behind.stands.function
    rw [called, Eval.perform_apply there held]
    rfl

end Moment

end ProxyAutoConfig.Script
