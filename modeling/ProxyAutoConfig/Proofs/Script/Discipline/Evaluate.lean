import ProxyAutoConfig.Proofs.Script.Discipline.Methods
import ProxyAutoConfig.Script.Evaluate

/-!
# Disciplines and running syntax

Syntax runs in scopes, and whether it keeps a discipline depends on what it touches there. A site
(`Discipline.Site`) says which scopes they are and which touches they admit. Running syntax whose
touches are admitted keeps the discipline where the calls do that it makes.

The proof follows the recursion along the syntax, with one case for each form; a loop keeps a
discipline by induction on the rounds that it has left.
-/

namespace ProxyAutoConfig.Script

/-- To ask what a name stands for is to look it up in the scopes as they are. -/
theorem Eval.bind_binding? {β : Type} (s : Nat) (x : Text.Units)
    (f : Option (Nat × Binding) → Eval β) (m : Machine) :
    (Eval.binding? s x >>= f) m = f (Scope.find m.scopes x (m.scopes.size + 1) s) m :=
  rfl

namespace Discipline

open ProxyAutoConfig.Text Condition

/-- **A site for syntax**: scopes, and what syntax may touch that runs in them. -/
structure Site (D : Discipline) where
  /-- The scope is one of them. -/
  here : Nat → D.Condition
  allows : Touch → Prop
  /-- A scope within one of them is another one. -/
  child : ∀ {scopes s names}, (here s).on scopes → names ≠ [] →
    (∀ b ∈ names, allows (.declare b.1)) →
      D.later scopes (scopes.push ⟨names, some s⟩) ∧
        (here scopes.size).on (scopes.push ⟨names, some s⟩)
  /-- A copy of one of them is another one. -/
  copy : ∀ {scopes : Array Scope} {s}, (here s).on scopes →
    D.later scopes (scopes.push (scopes[s]?.getD default)) ∧
      (here scopes.size).on (scopes.push (scopes[s]?.getD default))
  /-- A name of the scope gets a value. -/
  bind : ∀ {scopes s x} (b : Binding), (here s).on scopes → allows (.declare x) →
    D.later scopes (scopes.modify s (·.bind x b))
  /-- A name that is known in the scope gets another value, where it has one. -/
  assign : ∀ {scopes s x t old} (b : Binding), (here s).on scopes → allows (.assign x) →
    Scope.find scopes x (scopes.size + 1) s = some (t, old) →
      D.later scopes (scopes.modify t (·.bind x b))
  /-- A name that is not known in the scope is one of the global object. -/
  outside : ∀ {scopes s x}, (here s).on scopes → allows (.assign x) →
    Scope.find scopes x (scopes.size + 1) s = none → D.free (Key.ofUnits x)
  /-- A name of the whole script is one of the global object. -/
  global : ∀ {x}, allows (.declare x) → D.free (Key.ofUnits x)
  /-- A function is made in the scope. -/
  function : ∀ {scopes s f}, (here s).on scopes → allows .closure →
    (∀ t ∈ f.touches, allows t) → D.lawful scopes f s
  /-- A member of the global object is written to. -/
  write : ∀ {o k w frame m after key}, allows (.write o k) →
    (Target.member o k).eval w frame m = .ok (.member (.object Well.global) key) after →
      D.free key

variable {D : Discipline} {α : Type} {depth top : Nat} {P : D.Condition}

namespace Site

variable (site : D.Site)

/-- Everything in the list may be touched. -/
def Admits (touches : List Touch) : Prop :=
  ∀ t ∈ touches, site.allows t

@[simp] theorem admits_nil : site.Admits [] ↔ True :=
  iff_true_intro (List.forall_mem_nil _)

@[simp] theorem admits_cons (t : Touch) (touches : List Touch) :
    site.Admits (t :: touches) ↔ site.allows t ∧ site.Admits touches :=
  List.forall_mem_cons

@[simp] theorem admits_append (a b : List Touch) :
    site.Admits (a ++ b) ↔ site.Admits a ∧ site.Admits b :=
  List.forall_mem_append

theorem Admits.mono {site : D.Site} {a b : List Touch} (admits : site.Admits a) (sub : b ⊆ a) :
    site.Admits b :=
  fun t mem => admits t (sub mem)

/-- A spot that may be written to. -/
def Writes : Eval.Spot → Prop
  | .name x => site.allows (.assign x)
  | .member o k => D.OpenMember o k

end Site

variable {site : D.Site}

/-! ## Parts of syntax -/

namespace Site.Admits

theorem of_mem_functions {body : List Stmt} (admits : site.Admits (Stmt.allTouches body))
    {f : Function} (mem : f ∈ Stmt.functions body) :
    site.allows (.declare f.info.name) ∧ site.allows .closure ∧ site.Admits f.touches := by
  have inside := admits.mono (Stmt.touches_subset_of_mem_functions mem)
  simpa only [Stmt.touches, admits_cons] using inside

theorem of_mem_unstarted {body : List Stmt} (admits : site.Admits (Stmt.allTouches body))
    {b : Units × Binding} (mem : b ∈ Eval.unstarted body) : site.allows (.declare b.1) :=
  admits _ (Stmt.declare_mem_of_mem_unstarted mem)

theorem of_ownName {f : Function} (admits : site.Admits f.touches)
    (own : f.info.ownName = true) : site.allows (.declare f.info.name) :=
  admits _ (Function.declare_mem_touches (by simp [FunctionInfo.names, own]))

end Site.Admits

/-! ## Scopes -/

section Scopes

variable {s : Nat} (here : P.Has (site.here s))
include here

theorem newScope_gives {names : List (Units × Binding)} (some' : names ≠ [])
    (allowed : ∀ b ∈ names, site.allows (.declare b.1)) :
    D.Gives depth top P site.here (Eval.newScope ⟨names, some s⟩) := by
  refine ⟨fun m found holds on => ?_⟩
  obtain ⟨later, inner⟩ := site.child (here _ on) some' allowed
  exact ⟨found, D.holds_later later holds, later, inner⟩

namespace Keeps

theorem bindName {x : Units} (allowed : site.allows (.declare x)) (b : Binding) :
    D.Keeps depth top P (Eval.bind s x b) := by
  refine ⟨fun m found holds on => ?_⟩
  have later := site.bind b (here _ on) allowed
  exact ⟨found, D.holds_later later holds, later, trivial⟩

theorem start {x : Units} (allowed : site.allows (.declare x)) (v : Value) :
    D.Keeps depth top P (Eval.start s x v) := by
  refine ⟨fun m found holds on => ?_⟩
  have later (b : Binding) := site.bind b (here _ on) allowed
  exact ⟨found, D.holds_later (later _) holds, later _, trivial⟩

/-- **A name is assigned to**, where it is known or in the global object. -/
theorem assign {x : Units} (allowed : site.allows (.assign x)) (v : Value) :
    D.Keeps depth top P (Eval.assign s x v) := by
  refine ⟨fun m found holds on => ?_⟩
  rw [Eval.assign, Eval.bind_binding?]
  rcases known : Scope.find m.scopes x (m.scopes.size + 1) s with _ | ⟨t, _ | old, _ | _ | _⟩
  case none =>
    have free := site.outside (here _ on) allowed known
    exact (Keeps.set (fun _ => free) v).ends m found holds on
  case some.free =>
    have later := site.assign ⟨some v, .free⟩ (here _ on) allowed known
    exact ⟨found, D.holds_later later holds, later, trivial⟩
  case some.ownName => exact (Keeps.pure _).ends m found holds on
  all_goals exact (Keeps.fail _ _).ends m found holds on

theorem deleteName {x : Units} (allowed : site.allows (.assign x)) :
    D.Keeps depth top P (Eval.deleteName s x) := by
  refine ⟨fun m found holds on => ?_⟩
  rw [Eval.deleteName, Eval.bind_binding?]
  cases known : Scope.find m.scopes x (m.scopes.size + 1) s with
  | some _ => exact (Keeps.pure _).ends m found holds on
  | none =>
    have free : D.OpenMember (.object Well.global) (Key.ofUnits x) :=
      fun _ _ _ => site.outside (here _ on) allowed known
    exact (Keeps.deleteMember free).ends m found holds on

end Keeps

end Scopes

/-! ## Functions and blocks -/

theorem Keeps.withPrototype {f : Ref} (mine : D.mine f) (writable : Bool) :
    D.Keeps depth top P (Eval.withPrototype f writable) :=
  newObject_yields.bind fun _ own =>
    .bind (change_within (.of_mine own _) (Object.within_define _ _)) fun _ =>
      change_within (.of_mine mine _) (Object.within_define _ _)

@[grind .] theorem Keeps.makeClass (x : Units) : D.Keeps depth top P (Eval.makeClass x) := by
  refine (newFunction_yields x 0 ?_).bind fun _ mine =>
    .bind (.withPrototype mine false) fun _ => .pure _
  rintro _ _ _ ⟨⟩

section Frames

variable {frame : Frame} (here : P.Has (site.here frame.scope))
include here

theorem Keeps.makeFunction {f : Function} (closure : site.allows .closure)
    (admits : site.Admits f.touches) : D.Keeps depth top P (Eval.makeFunction f frame) := by
  have lawful {P : D.Condition} {s : Nat} (here : P.Has (site.here s)) : P.Has (.lawful f s) :=
    fun _ on => site.function (here _ on) closure admits
  have made {P : D.Condition} {s : Nat} (self : Value) (here : P.Has (site.here s)) :
      D.Yields depth top P D.mine (Eval.newFunction (.script f s self) f.info.name
        f.info.parameters.length) := by
    refine newFunction_yields _ _ ?_
    rintro _ _ _ ⟨⟩
    exact lawful here
  unfold Eval.makeFunction
  dsimp only
  split
  · exact (made _ here).keeps.bind fun _ => .pure _
  · split
    next own =>
      have allowed := admits.of_ownName own
      refine (newScope_gives here (List.cons_ne_nil _ _)
        (List.forall_mem_singleton.mpr allowed)).bind_keeps fun s => ?_
      refine (made _ (.right _ _)).bind fun r mine => ?_
      refine .bind (.withPrototype mine _) fun _ => ?_
      exact .bind (.start (.right _ _) allowed _) fun _ => .pure _
    next =>
      rw [pure_bind]
      exact (made _ here).bind fun r mine => .bind (.withPrototype mine _) fun _ => .pure _

theorem Keeps.startFunctions {body : List Stmt} (admits : site.Admits (Stmt.allTouches body)) :
    D.Keeps depth top P (Eval.startFunctions body frame) := by
  refine .forM_mem fun f mem => ?_
  obtain ⟨name, closure, touches⟩ := admits.of_mem_functions mem
  exact .bind (.makeFunction here closure touches) fun _ => .start here name _

/-- The names of a block get a scope. -/
theorem enterBlock_gives {body : List Stmt} (admits : site.Admits (Stmt.allTouches body)) :
    D.Gives depth top P (fun inner => site.here inner.scope) (Eval.enterBlock body frame) := by
  have allowed : ∀ b ∈ Eval.unstarted body ++
      (Stmt.functions body).map (fun f => (f.info.name, ⟨none, .free⟩)),
      site.allows (.declare b.1) := by
    intro b mem
    rcases List.mem_append.mp mem with mem | mem
    · exact admits.of_mem_unstarted mem
    · obtain ⟨f, declared, rfl⟩ := List.mem_map.mp mem
      exact (admits.of_mem_functions declared).1
  unfold Eval.enterBlock
  dsimp only
  split
  next => exact .pure _ here
  next names =>
    refine Gives.bind (newScope_gives here names allowed) fun s => ?_
    have inner := Has.right P (site.here s)
    refine Keeps.bind_gives ?_ fun _ => .pure _ inner
    exact .startFunctions inner admits

theorem freshScope_gives (fresh : List Units) :
    D.Gives depth top P (fun inner => site.here inner.scope) (Eval.freshScope fresh frame) := by
  refine ⟨fun m found holds on => ?_⟩
  unfold Eval.freshScope
  split
  · exact ⟨found, holds, D.later_refl _, here _ on⟩
  · obtain ⟨later, inner⟩ := site.copy (here _ on)
    exact ⟨found, D.holds_later later holds, later, inner⟩

end Frames

/-! ## Loops -/

@[grind .] theorem Keeps.countRound (limit : Nat) : D.Keeps depth top P (Eval.countRound limit) := by
  refine ⟨fun m found holds _ => ?_⟩
  unfold Eval.countRound
  split
  · exact ⟨found, holds, D.later_refl _⟩
  · exact ⟨found, holds, D.later_refl _, trivial⟩

section Loops

variable (limit : Nat) (own fresh : List Units)

@[grind .] theorem Keeps.whileLoop {test : Eval Value} {body : Eval Completion}
    (tests : D.Keeps depth top P test) (rounds : D.Keeps depth top P body) (fuel : Nat) :
    D.Keeps depth top P (Eval.whileLoop limit own test body fuel) := by
  induction fuel with
  | zero => exact .limit
  | succ fuel ih =>
    unfold Eval.whileLoop
    grind

@[grind .] theorem Keeps.doLoop {test : Eval Value} {body : Eval Completion}
    (tests : D.Keeps depth top P test) (rounds : D.Keeps depth top P body) (fuel : Nat) :
    D.Keeps depth top P (Eval.doLoop limit own test body fuel) := by
  induction fuel with
  | zero => exact .limit
  | succ fuel ih =>
    unfold Eval.doLoop
    grind

/-- Every round of a loop may run in a scope of its own. -/
theorem Keeps.forLoop {test update : Frame → Eval Value} {body : Frame → Eval Completion}
    (tests : ∀ (P : D.Condition) (frame : Frame), P.Has (site.here frame.scope) →
      D.Keeps depth top P (test frame))
    (updates : ∀ (P : D.Condition) (frame : Frame), P.Has (site.here frame.scope) →
      D.Keeps depth top P (update frame))
    (rounds : ∀ (P : D.Condition) (frame : Frame), P.Has (site.here frame.scope) →
      D.Keeps depth top P (body frame))
    (fuel : Nat) {P : D.Condition} {frame : Frame} (here : P.Has (site.here frame.scope)) :
    D.Keeps depth top P (Eval.forLoop limit own fresh test update body fuel frame) := by
  induction fuel generalizing P frame with
  | zero => exact .limit
  | succ fuel ih =>
    unfold Eval.forLoop
    refine .bind (tests P frame here) fun v => ?_
    split
    · refine .bind (rounds P frame here) fun c => ?_
      split
      · exact .pure _
      · exact (freshScope_gives here fresh).bind_keeps fun next =>
          .bind (.countRound limit) fun _ =>
            .bind (updates _ next (.right _ _)) fun _ => ih (.right _ _)
    · exact .pure _

end Loops

/-! ## Parts of expressions -/

@[grind .] theorem Keeps.arrayOf (items : List Expr) (values : List Value) :
    D.Keeps depth top P (Eval.arrayOf items values) :=
  .fillArray _

@[grind .] theorem Keeps.readSpot (frame : Frame) (spot : Eval.Spot) :
    D.Keeps depth top P (Eval.readSpot frame spot) := by
  cases spot
  · exact .lookup _ _
  · exact .getMember _ _

theorem Keeps.writeSpot {frame : Frame} (here : P.Has (site.here frame.scope)) (v : Value)
    {spot : Eval.Spot} (writes : site.Writes spot) :
    D.Keeps depth top P (Eval.writeSpot frame v spot) := by
  cases spot with
  | name x => exact .assign here writes v
  | member o k => exact .setMember writes v

@[grind .] theorem Keeps.memberKey {call : Caller} (calls : D.KeepsCalls depth top call)
    (o k : Value) : D.Keeps depth top P (Eval.memberKey call o k) := by
  unfold Eval.memberKey
  grind

/-! ## Expressions -/

variable {w : Surroundings}

mutual

/-- **Evaluating an expression keeps a discipline** at a site that admits what it touches. -/
theorem Keeps.expr (calls : D.KeepsCalls depth top w.call) {P : D.Condition} (e : Expr)
    {frame : Frame} (here : P.Has (site.here frame.scope)) (admits : site.Admits e.touches) :
    D.Keeps depth top P (e.eval w frame) := by
  match e with
  | .undefined | .null | .bool _ | .number _ | .text _ | .thisValue | .hole =>
    simp only [Expr.eval]
    exact .pure _
  | .pattern p =>
    simp only [Expr.eval]
    exact .newPattern p
  | .name x =>
    simp only [Expr.eval]
    exact .lookup _ _
  | .array items =>
    have each := Keeps.exprs calls items here admits
    simp only [Expr.eval]
    grind
  | .object es =>
    simp only [Expr.eval]
    exact newObject_yields.bind fun r mine =>
      .bind (Keeps.entries calls es mine here admits) fun _ => .pure _
  | .function f =>
    simp only [Expr.touches, Site.admits_cons] at admits
    simp only [Expr.eval]
    exact .makeFunction here admits.1 admits.2
  | .unary op e =>
    have operand := Keeps.expr calls e here admits
    simp only [Expr.eval]
    grind
  | .typeOfName x =>
    simp only [Expr.eval]
    grind
  | .delete t =>
    simp only [Expr.eval]
    refine (target_yields calls t here admits).bind fun spot writes => ?_
    cases spot with
    | name x => exact .bind (.deleteName here writes) fun _ => .pure _
    | member o k => exact .bind (.deleteMember writes) fun _ => .pure _
  | .update increment front t =>
    simp only [Expr.eval]
    exact (target_yields calls t here admits).bind fun spot writes =>
      .bind (.readSpot frame spot) fun old => .bind (.toNumber calls old) fun n =>
        .bind (.writeSpot here _ writes) fun _ => .pure _
  | .binary _ a b | .logical _ a b | .sequence a b | .member a b =>
    simp only [Expr.touches, Site.admits_append] at admits
    have first := Keeps.expr calls a here admits.1
    have second := Keeps.expr calls b here admits.2
    simp only [Expr.eval]
    grind
  | .conditional c a b =>
    simp only [Expr.touches, Site.admits_append] at admits
    have test := Keeps.expr calls c here admits.1.1
    have first := Keeps.expr calls a here admits.1.2
    have second := Keeps.expr calls b here admits.2
    simp only [Expr.eval]
    grind
  | .assign t e =>
    simp only [Expr.touches, Site.admits_append] at admits
    simp only [Expr.eval]
    exact (target_yields calls t here admits.1).bind fun spot writes =>
      .bind (Keeps.expr calls e here admits.2) fun v => .bind (.writeSpot here v writes) fun _ => .pure _
  | .assignBinary op t e =>
    simp only [Expr.touches, Site.admits_append] at admits
    simp only [Expr.eval]
    exact (target_yields calls t here admits.1).bind fun spot writes =>
      .bind (.readSpot frame spot) fun old => .bind (Keeps.expr calls e here admits.2) fun v =>
        .bind (.binary calls op old v) fun v => .bind (.writeSpot here v writes) fun _ => .pure _
  | .assignLogical op t e =>
    simp only [Expr.touches, Site.admits_append] at admits
    simp only [Expr.eval]
    refine (target_yields calls t here admits.1).bind fun spot writes =>
      .bind (.readSpot frame spot) fun old => ?_
    split
    · exact .pure _
    · exact .bind (Keeps.expr calls e here admits.2) fun v =>
        .bind (.writeSpot here v writes) fun _ => .pure _
  | .call f arguments | .new f arguments =>
    simp only [Expr.touches, Site.admits_append] at admits
    have function := Keeps.expr calls f here admits.1
    have each := Keeps.exprs calls arguments here admits.2
    simp only [Expr.eval]
    grind
  | .callMember o k arguments =>
    simp only [Expr.touches, Site.admits_append] at admits
    have object := Keeps.expr calls o here admits.1.1
    have key := Keeps.expr calls k here admits.1.2
    have each := Keeps.exprs calls arguments here admits.2
    simp only [Expr.eval]
    grind

theorem Keeps.exprs (calls : D.KeepsCalls depth top w.call) {P : D.Condition} (es : List Expr)
    {frame : Frame} (here : P.Has (site.here frame.scope)) (admits : site.Admits (Expr.allTouches es)) :
    D.Keeps depth top P (Expr.evalAll w es frame) := by
  match es with
  | [] =>
    simp only [Expr.evalAll]
    exact .pure _
  | e :: rest =>
    simp only [Expr.allTouches, Site.admits_append] at admits
    have first := Keeps.expr calls e here admits.1
    have others := Keeps.exprs calls rest here admits.2
    simp only [Expr.evalAll]
    grind

/-- What a target stands for may be written to. -/
theorem target_yields (calls : D.KeepsCalls depth top w.call) {P : D.Condition} (t : Target)
    {frame : Frame} (here : P.Has (site.here frame.scope)) (admits : site.Admits t.touches) :
    D.Yields depth top P site.Writes (t.eval w frame) := by
  match t with
  | .name x =>
    simp only [Target.touches, Site.admits_cons] at admits
    simp only [Target.eval]
    exact .pure admits.1
  | .member o k =>
    simp only [Target.touches, Site.admits_cons, Site.admits_append] at admits
    obtain ⟨allowed, object, key⟩ := admits
    have object := Keeps.expr calls o here object
    have key := Keeps.expr calls k here key
    have keeps : D.Keeps depth top P ((Target.member o k).eval w frame) := by
      simp only [Target.eval]
      grind
    refine keeps.yields fun m spot after outcome => ?_
    have whole := outcome
    simp only [Target.eval] at outcome
    obtain ⟨object, _, _, outcome⟩ := Outcome.exists_of_bind_ok outcome
    obtain ⟨_, _, _, outcome⟩ := Outcome.exists_of_bind_ok outcome
    obtain ⟨k, _, _, outcome⟩ := Outcome.exists_of_bind_ok outcome
    cases outcome
    rintro _ rfl rfl
    exact site.write allowed whole

theorem Keeps.entries (calls : D.KeepsCalls depth top w.call) {P : D.Condition}
    (es : List Entry) {r : Ref} (mine : D.mine r) {frame : Frame}
    (here : P.Has (site.here frame.scope))
    (admits : site.Admits (Entry.allTouches es)) :
    D.Keeps depth top P (Entry.defineAll w es r frame) := by
  match es with
  | [] =>
    simp only [Entry.defineAll]
    exact .pure _
  | .mk key e :: rest =>
    simp only [Entry.allTouches, Site.admits_append] at admits
    have value := Keeps.expr calls e here admits.1
    have others := Keeps.entries calls rest mine here admits.2
    simp only [Entry.defineAll, Entry.define]
    exact .bind (.bind value fun v =>
      .change_within (.of_mine mine _) (Object.within_define _ _)) fun _ => others

end

/-! ## Statements -/

mutual

/-- **Running a statement keeps a discipline** at a site that admits what it touches. -/
theorem Keeps.stmt (calls : D.KeepsCalls depth top w.call) {P : D.Condition} (s : Stmt)
    (own : List Units) {frame : Frame} (here : P.Has (site.here frame.scope))
    (admits : site.Admits s.touches) : D.Keeps depth top P (s.exec w own frame) := by
  match s with
  | .empty | .function _ | .leave _ | .next _ =>
    simp only [Stmt.exec]
    exact .pure _
  | .expr e | .ret e | .throw e =>
    have value := Keeps.expr calls e here admits
    simp only [Stmt.exec]
    grind
  | .declare kind x e =>
    simp only [Stmt.touches, Site.admits_cons] at admits
    have value := Keeps.expr calls e here admits.2
    simp only [Stmt.exec]
    refine value.bind fun v => ?_
    by_cases var : kind = .var
    · simp only [if_pos var] at admits ⊢
      exact .bind (.assign here admits.1 v) fun _ => .pure _
    · simp only [if_neg var] at admits ⊢
      exact .bind (.start here admits.1 v) fun _ => .pure _
  | .emptyClass x =>
    simp only [Stmt.touches, Site.admits_cons] at admits
    simp only [Stmt.exec]
    exact .bind (.makeClass x) fun _ => .bind (.start here admits.1 _) fun _ => .pure _
  | .many body =>
    simp only [Stmt.exec]
    exact Keeps.stmts calls body here admits
  | .block body =>
    simp only [Stmt.exec]
    exact (enterBlock_gives here admits).bind_keeps fun _ =>
      Keeps.stmts calls body (.right _ _) admits
  | .ifElse c a b =>
    simp only [Stmt.touches, Site.admits_append] at admits
    have test := Keeps.expr calls c here admits.1.1
    have first := Keeps.stmt calls a [] here admits.1.2
    have second := Keeps.stmt calls b [] here admits.2
    simp only [Stmt.exec]
    grind
  | .whileLoop c body | .doLoop body c =>
    simp only [Stmt.touches, Site.admits_append] at admits
    have test := Keeps.expr calls c here admits.1
    have round := Keeps.stmt calls body [] here admits.2
    simp only [Stmt.exec]
    grind
  | .forLoop first fresh c update body =>
    simp only [Stmt.touches, Site.admits_append] at admits
    obtain ⟨⟨⟨starts, tests⟩, updates⟩, rounds⟩ := admits
    have declared : site.Admits (Stmt.allTouches [first]) := by
      simpa only [Stmt.allTouches, List.append_nil] using starts
    simp only [Stmt.exec]
    refine (enterBlock_gives here declared).bind_keeps fun outer => ?_
    have inside := Has.right P (site.here outer.scope)
    refine .bind (Keeps.stmt calls first [] inside starts) fun _ => ?_
    exact (freshScope_gives inside _).bind_keeps fun inner =>
      .forLoop w.rounds own _ (fun _ _ here => Keeps.expr calls c here tests)
        (fun _ _ here => Keeps.expr calls update here updates)
        (fun _ _ here => Keeps.stmt calls body [] here rounds) _ (.right _ _)
  | .switch subject cases =>
    simp only [Stmt.touches, Site.admits_append] at admits
    simp only [Stmt.exec]
    refine .bind (Keeps.expr calls subject here admits.1) fun v => ?_
    refine (enterBlock_gives here (admits.2.mono (Stmt.allTouches_cases_subset cases))).bind_keeps fun inner => ?_
    have inside := Has.right P (site.here inner.scope)
    have run := fun n => Keeps.caseFrom calls cases n inside admits.2
    have otherwise := Keeps.caseDefault calls cases inside admits.2
    have found := Keeps.caseFind calls cases v 0 inside admits.2
    grind
  | .tryCatch body parameter handler =>
    simp only [Stmt.touches, Site.admits_append] at admits
    obtain ⟨⟨caught, tried⟩, handled⟩ := admits
    -- What was thrown is handled in the scope around the block, or in one of its own.
    have handles {P : D.Condition} {s : Nat} (here : P.Has (site.here s)) :
        D.Keeps depth top P (do
          let inner ← Eval.enterBlock handler { frame with scope := s }
          Stmt.execAll w handler inner) := by
      refine Gives.bind_keeps (enterBlock_gives ?_ handled) fun _ => ?_
      · exact here
      · exact Keeps.stmts calls handler (.right _ _) handled
    simp only [Stmt.exec]
    refine (enterBlock_gives here tried).bind_keeps fun inner => ?_
    refine .bind (.capture (Keeps.stmts calls body (.right _ _) tried)) fun outcome => ?_
    have outside := here.left (site.here inner.scope)
    cases outcome with
    | ok c => exact .pure c
    | error v =>
      cases parameter with
      | none =>
        simp only [pure_bind]
        exact handles outside
      | some x =>
        have allowed := caught _ (List.mem_singleton_self (Touch.declare x))
        exact (newScope_gives outside (List.cons_ne_nil _ _)
          (List.forall_mem_singleton.mpr allowed)).bind_keeps fun _ => handles (.right _ _)
  | .tryFinally body last =>
    simp only [Stmt.touches, Site.admits_append] at admits
    have tried := Keeps.stmt calls body [] here admits.1
    have ended := Keeps.stmt calls last [] here admits.2
    simp only [Stmt.exec]
    grind
  | .labeled label body =>
    have run := Keeps.stmt calls body (label :: own) here admits
    simp only [Stmt.exec]
    grind

theorem Keeps.stmts (calls : D.KeepsCalls depth top w.call) {P : D.Condition}
    (body : List Stmt) {frame : Frame} (here : P.Has (site.here frame.scope))
    (admits : site.Admits (Stmt.allTouches body)) :
    D.Keeps depth top P (Stmt.execAll w body frame) := by
  match body with
  | [] =>
    simp only [Stmt.execAll]
    exact .pure _
  | s :: rest =>
    simp only [Stmt.allTouches, Site.admits_append] at admits
    have first := Keeps.stmt calls s [] here admits.1
    have others := Keeps.stmts calls rest here admits.2
    simp only [Stmt.execAll]
    grind

theorem Keeps.caseFind (calls : D.KeepsCalls depth top w.call) {P : D.Condition}
    (cases : List Case) (v : Value) (n : Nat) {frame : Frame}
    (here : P.Has (site.here frame.scope)) (admits : site.Admits (Case.allTouches cases)) :
    D.Keeps depth top P (Case.find w cases v n frame) := by
  match cases with
  | [] =>
    simp only [Case.find]
    exact .pure _
  | .test e _ :: rest =>
    simp only [Case.allTouches, Site.admits_append] at admits
    have test := Keeps.expr calls e here admits.1.1
    have others := Keeps.caseFind calls rest v (n + 1) here admits.2
    simp only [Case.find, Case.holds]
    grind
  | .default _ :: rest =>
    simp only [Case.allTouches, Site.admits_append] at admits
    have others := Keeps.caseFind calls rest v (n + 1) here admits.2
    simp only [Case.find, Case.holds]
    grind

theorem Keeps.caseFrom (calls : D.KeepsCalls depth top w.call) {P : D.Condition}
    (cases : List Case) (n : Nat) {frame : Frame} (here : P.Has (site.here frame.scope))
    (admits : site.Admits (Case.allTouches cases)) :
    D.Keeps depth top P (Case.execFrom w cases n frame) := by
  match cases with
  | [] =>
    simp only [Case.execFrom]
    exact .pure _
  | .test _ body :: rest | .default body :: rest =>
    simp only [Case.allTouches, Site.admits_append] at admits
    have run := Keeps.stmts calls body here (by grind)
    have others := fun n => Keeps.caseFrom calls rest n here admits.2
    simp only [Case.execFrom, Case.exec]
    grind

theorem Keeps.caseDefault (calls : D.KeepsCalls depth top w.call) {P : D.Condition}
    (cases : List Case) {frame : Frame} (here : P.Has (site.here frame.scope))
    (admits : site.Admits (Case.allTouches cases)) :
    D.Keeps depth top P (Case.execDefault w cases frame) := by
  match cases with
  | [] =>
    simp only [Case.execDefault]
    exact .pure _
  | .test _ body :: rest | .default body :: rest =>
    simp only [Case.allTouches, Site.admits_append] at admits
    have run := Keeps.stmts calls body here (by grind)
    have behind := fun n => Keeps.caseFrom calls rest n here admits.2
    have others := Keeps.caseDefault calls rest here admits.2
    simp only [Case.execDefault, Case.exec]
    grind

end

end Discipline

end ProxyAutoConfig.Script
