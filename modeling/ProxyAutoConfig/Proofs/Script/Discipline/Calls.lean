import ProxyAutoConfig.Proofs.Script.Discipline.Evaluate
import ProxyAutoConfig.Script.Realm

/-!
# Disciplines and calls

A call of a script function counts itself while it runs. It takes the count back however it ends,
except where a host function breaks down in it: then the count stays as it was at that moment,
which lies below the bound, since no host function is called where no level is left. The function
may be called in its scope, for the discipline holds wherever a call starts, and so its body runs at
a site that admits what it touches (`Discipline.Enters`).

So calls keep a discipline (`KeepsCalls.caller`) if the host functions do, by induction on the levels
that are left, and within one level by induction on how far functions of the host may nest. A script
that is run starts at a level of its own. What is shown for a thrown value is found without calls.
-/

namespace ProxyAutoConfig.Script

open ProxyAutoConfig.Text

/-- What succeeds in the end has succeeded. -/
theorem Eval.ok_of_finish {α : Type} {x : Eval α} {m after : Machine} {a : α}
    (finished : finish x m = (.ok a, after)) : x m = .ok a after := by
  unfold finish at finished
  split at finished
  case h_1 b last outcome =>
    cases finished
    exact outcome
  case h_4 v last outcome => split at finished <;> cases finished
  all_goals cases finished

namespace Discipline

/-- **The bodies of functions run at sites**: one for every function that may be called, for the
scopes of its calls. -/
def Enters (D : Discipline) : Prop :=
  ∀ f : Function, ∃ site : D.Site, ∀ scopes s, D.lawful scopes f s →
    site.Admits (Stmt.allTouches f.body) ∧
      ∀ arguments all, all.isSome = (f.info.usesArguments && !f.info.arrow) →
        let inner := scopes.push ⟨Eval.functionNames f arguments all, some s⟩
        D.later scopes inner ∧ (site.here scopes.size).on inner

end Discipline

/-- **A surrounding that keeps a discipline**: its host functions do wherever a level is left. -/
def Embedding.Keeps (h : Embedding) (D : Discipline) (top : Nat) : Prop :=
  ∀ depth < top, ∀ call, D.KeepsCalls depth top call →
    ∀ P i arguments, D.Keeps depth top P (h.run i call arguments)

namespace Discipline

open Condition

variable {D : Discipline} {depth top : Nat} {P : D.Condition}

/-- What is known of a function of the heap. -/
def Condition.code : Code → D.Condition
  | .script f s _ => .lawful f s
  | _ => any

/-- **A function of the script that is in the heap may be called.** -/
theorem code?_gives (v : Value) :
    D.Gives depth top P (fun found => found.elim any code) (Eval.code? v) := by
  unfold Eval.code?
  cases v with
  | object r =>
    refine ⟨fun m found holds _ => ⟨found, holds, D.later_refl _, ?_⟩⟩
    cases there : m.objects[r]? with
    | none => exact trivial
    | some o =>
      simp only [Option.getD_some]
      cases held : o.code? with
      | none => exact trivial
      | some c =>
        cases c with
        | script f s self => exact D.lawful_held holds there held
        | _ => exact trivial
  | _ => exact .pure _ (.any P)

namespace Keeps

/-! ## One call -/

/-- **A call of a script function takes its level back.** -/
@[grind .] theorem nested {α : Type} {x : Eval α} (deeper : D.Keeps (depth + 1) top P x) :
    D.Keeps depth top P (Eval.nested x) := by
  refine ⟨?_⟩
  rintro ⟨objects, scopes, count, rounds⟩ rfl holds on
  have ends := deeper.ends ⟨objects, scopes, count + 1, 0⟩ rfl holds on
  unfold Eval.nested
  cases outcome : x ⟨objects, scopes, count + 1, 0⟩ with
  | ok a after =>
    rw [outcome] at ends
    simp only [outcome]
    exact ⟨rfl, ends.2⟩
  | error halt after =>
    rw [outcome] at ends
    simp only [outcome]
    cases halt with
    | broken message => exact ⟨D.fallen_deeper ends.1, ends.2⟩
    | limit | thrown v => exact ⟨rfl, ends.2⟩

@[grind .] theorem newArguments (arguments : List Value) :
    D.Keeps depth top P (Eval.newArguments arguments) :=
  .bind (allocate_yields_other rfl).keeps fun _ => .pure _

/-- **A function that may be called runs at its site.** -/
theorem runFunction {w : Surroundings} (enters : D.Enters)
    (calls : D.KeepsCalls depth top w.call) {f : Function} {s : Nat}
    (lawful : P.Has (.lawful f s)) (self : Value) (arguments : List Value) :
    D.Keeps depth top P (Eval.runFunction w f s self arguments) := by
  obtain ⟨site, enter⟩ := enters f
  refine ⟨fun m found holds on => ?_⟩
  have admits := (enter _ s (lawful _ on)).1
  have entered (all : Option Value) (given : all.isSome = (f.info.usesArguments && !f.info.arrow)) :
      D.Gives depth top P site.here
        (Eval.newScope ⟨Eval.functionNames f arguments all, some s⟩) := by
    refine ⟨fun m found holds on => ?_⟩
    obtain ⟨later, here⟩ := (enter _ s (lawful _ on)).2 arguments all given
    exact ⟨found, D.holds_later later holds, later, here⟩
  have whole : D.Keeps depth top P (Eval.runFunction w f s self arguments) := by
    unfold Eval.runFunction
    dsimp only
    split
    case' isTrue needed =>
      refine .bind (.newArguments arguments) fun v => ?_
      rw [pure_bind]
      refine (entered (some v) needed.symm).bind_keeps fun inner => ?_
    case' isFalse unneeded =>
      rw [pure_bind]
      refine (entered none (Bool.eq_false_iff.mpr unneeded).symm).bind_keeps fun inner => ?_
    all_goals
      have here := Has.right P (site.here inner)
      have run : D.Keeps depth top (P.both (site.here inner))
        (Stmt.execAll w f.body ⟨inner, self⟩) := stmts calls f.body here admits
      refine .bind (.startFunctions here admits) fun _ => ?_
      grind
  exact whole.ends m found holds on

@[grind .] theorem prototypeOf (f : Value) : D.Keeps depth top P (Eval.prototypeOf f) := by
  unfold Eval.prototypeOf
  grind

/-- An object is made with a parent. -/
theorem newInstance (parent : Option Ref) :
    D.Keeps depth top P (Eval.allocate ⟨.plain, parent, []⟩) :=
  (allocate_yields_other rfl).keeps

section Perform

variable {h : Embedding} {lower beside : Caller} (enters : D.Enters) (host : h.Keeps D top)
  (left : depth < top) (below : D.KeepsCalls (depth + 1) top lower)
  (level : D.KeepsCalls depth top beside)

include enters host left below level in
theorem applyCode {code : Code} (lawful : P.Has (Condition.code code)) (self : Value)
    (arguments : List Value) :
    D.Keeps depth top P (Eval.applyCode h lower beside code self arguments) := by
  cases code with
  | builtin b => exact .applyBuiltin level b self arguments
  | host i => exact host depth left beside level P i arguments
  | emptyClass => exact .fail _ _
  | script f scope own =>
    have body (self : Value) :
        D.Keeps depth top P (Eval.nested (Eval.runFunction ⟨lower, h.rounds⟩ f scope self arguments)) :=
      .nested (.runFunction enters below lawful self arguments)
    unfold Eval.applyCode
    grind

include enters below level in
theorem constructCode (f : Value) {code : Code} (lawful : P.Has (Condition.code code))
    (arguments : List Value) :
    D.Keeps depth top P (Eval.constructCode h lower beside f code arguments) := by
  have made (parent : Option Ref) : D.Keeps depth top P (Eval.allocate ⟨.plain, parent, []⟩) :=
    newInstance parent
  cases code with
  | builtin b => exact .constructBuiltin level b arguments
  | host i => exact .fail _ _
  | emptyClass =>
    unfold Eval.constructCode
    grind
  | script g scope own =>
    have body (self : Value) :
        D.Keeps depth top P (Eval.nested (Eval.runFunction ⟨lower, h.rounds⟩ g scope self arguments)) :=
      .nested (.runFunction enters below lawful self arguments)
    unfold Eval.constructCode
    grind

include enters host left below level in
/-- Carrying out a call keeps a discipline where deeper calls and calls beside it do. -/
theorem perform (c : Call) : D.Keeps depth top P (Eval.perform h lower beside c) := by
  cases c with
  | apply f self arguments =>
    refine (code?_gives f).bind_keeps fun found => ?_
    cases found with
    | none => exact .fail _ _
    | some code => exact applyCode enters host left below level (.right P _) self arguments
  | construct f arguments =>
    refine (code?_gives f).bind_keeps fun found => ?_
    cases found with
    | none => exact .fail _ _
    | some code => exact constructCode enters below level f (.right P _) arguments

end Perform

end Keeps

/-! ## All calls -/

namespace KeepsCalls

variable {h : Embedding}

/-- No call is carried out where no level is left. -/
theorem none : D.KeepsCalls depth top fun _ => throw .limit :=
  fun _ _ => .limit

theorem callerBeside {lower : Caller} (enters : D.Enters) (host : h.Keeps D top)
    (left : depth < top) (below : D.KeepsCalls (depth + 1) top lower) (n : Nat) :
    D.KeepsCalls depth top (Eval.callerBeside h lower n) := by
  induction n with
  | zero => exact none
  | succ n ih => exact fun _ => .perform enters host left below ih

/-- **Calls keep a discipline**, with as many levels left as the bound lies above the count. -/
theorem caller (enters : D.Enters) (host : h.Keeps D top) (depth : Nat) :
    D.KeepsCalls depth top (Eval.caller h (top - depth)) := by
  induction left : top - depth generalizing depth with
  | zero => exact none
  | succ levels ih =>
    exact callerBeside enters host (by omega) (ih (depth + 1) (by omega)) Eval.nesting

/-- The host's calls keep a discipline. -/
theorem hostCaller (enters : D.Enters) (host : h.Keeps D top) :
    D.KeepsCalls depth top (Eval.hostCaller h top) := by
  refine fun P c => ⟨?_⟩
  rintro m rfl holds on
  exact (caller enters host m.depth P c).ends m rfl holds on

end KeepsCalls

/-! ## Scripts -/

namespace Keeps

@[grind .] theorem globalProperty? (x : Units) : D.Keeps depth top P (Eval.globalProperty? x) := by
  unfold Eval.globalProperty?
  grind

@[grind .] theorem isLexical (x : Units) : D.Keeps depth top P (Eval.isLexical x) :=
  .read _

@[grind .] theorem declaredTwice {α : Type} :
    D.Keeps depth top P (Eval.declaredTwice : Eval α) :=
  .fail _ _

@[grind .] theorem checkLexical (x : Units) : D.Keeps depth top P (Eval.checkLexical x) := by
  unfold Eval.checkLexical
  grind

@[grind .] theorem checkVariable (x : Units) : D.Keeps depth top P (Eval.checkVariable x) := by
  unfold Eval.checkVariable
  grind

@[grind .] theorem checkFunction (x : Units) : D.Keeps depth top P (Eval.checkFunction x) := by
  unfold Eval.checkFunction
  grind

/-- The global object gets a property. -/
theorem defineGlobal {x : Units} (free : D.free (Key.ofUnits x)) (p : Property) :
    D.Keeps depth top P (Eval.change Well.global (·.define (Key.ofUnits x) p)) :=
  change_within (fun _ => free) (Object.within_define _ p)

theorem declareFunction {x : Units} (free : D.free (Key.ofUnits x)) (v : Value) :
    D.Keeps depth top P (Eval.declareFunction x v) := by
  unfold Eval.declareFunction
  refine .bind (.globalProperty? x) fun found => ?_
  split <;> exact .bind (.pure _) fun p => .defineGlobal free p

theorem declareVariable {x : Units} (free : D.free (Key.ofUnits x)) :
    D.Keeps depth top P (Eval.declareVariable x) := by
  unfold Eval.declareVariable
  refine .bind (.globalProperty? x) fun found => ?_
  split
  · exact .defineGlobal free _
  · exact .pure _

/-- The names of a script are declared: its functions are made in the outermost scope. -/
theorem declareGlobals {site : D.Site} {program : Program}
    (here : P.Has (site.here globalScope))
    (lexical : ∀ b ∈ Eval.unstarted program.body, site.allows (.declare b.1))
    (functions : ∀ f ∈ Stmt.functions program.body, D.free (Key.ofUnits f.info.name) ∧
      D.Keeps depth top P (Eval.makeFunction f Eval.globalFrame))
    (hoisted : ∀ x ∈ program.hoisted, D.free (Key.ofUnits x)) :
    D.Keeps depth top P (Eval.declareGlobals program) :=
  .bind (.forM (fun _ => .checkLexical _) _) fun _ =>
    .bind (.forM (fun _ => .checkVariable _) _) fun _ =>
    .bind (.forM (fun _ => .checkFunction _) _) fun _ =>
    .bind (.forM_mem fun b mem => .bindName here (lexical b mem) b.2) fun _ =>
    .bind (.forM_mem fun f mem =>
      .bind (functions f mem).2 fun v => .declareFunction (functions f mem).1 v) fun _ =>
    .forM_mem fun x mem => .declareVariable (hoisted x mem)

/-- Running a script keeps a discipline where its declarations and its statements do. -/
theorem runScript_of {h : Embedding} {program : Program} (enters : D.Enters)
    (host : h.Keeps D top) (globals : D.Keeps depth top P (Eval.declareGlobals program))
    (body : ∀ w : Surroundings, D.KeepsCalls (depth + 1) top w.call →
      D.Keeps (depth + 1) top P (Stmt.execAll w program.body Eval.globalFrame)) :
    D.Keeps depth top P (Eval.runScript h top program) := by
  have counted : D.Yields (depth + 1) top P (fun count : Nat => count = depth + 1)
      (fun m => .ok m.depth m) :=
    ⟨fun m found holds _ => ⟨found, holds, D.later_refl _, found⟩⟩
  refine .bind globals fun _ => .nested (counted.bind fun count same => ?_)
  subst same
  exact .bind (body ⟨_, h.rounds⟩ (.caller enters host _)) fun _ => .pure _

/-- **Running a script keeps a discipline** at a site that admits what it touches. -/
theorem runScript {site : D.Site} {h : Embedding} {program : Program} (enters : D.Enters)
    (host : h.Keeps D top) (here : P.Has (site.here globalScope))
    (admits : site.Admits program.touches) :
    D.Keeps depth top P (Eval.runScript h top program) := by
  simp only [Program.touches, Site.admits_append] at admits
  obtain ⟨hoisted, touches⟩ := admits
  refine runScript_of enters host ?_ fun w calls =>
    .stmts calls program.body here touches
  refine declareGlobals here (fun b => touches.of_mem_unstarted) (fun f mem => ?_) fun x mem =>
    site.global (hoisted _ (List.mem_map_of_mem mem))
  obtain ⟨name, closure, inside⟩ := touches.of_mem_functions mem
  exact ⟨site.global name, .makeFunction here closure inside⟩

/-! ## The world of a script -/

/-- A change after another one is one change. -/
theorem change_change {r : Ref} {f g : Object → Object}
    (first : D.Keeps depth top P (Eval.change r f))
    (second : D.Keeps depth top P (Eval.change r g)) :
    D.Keeps depth top P (Eval.change r fun o => g (f o)) := by
  have both : Eval.change r (fun o => g (f o)) = (do
      Eval.change r f
      Eval.change r g) := by
    funext m
    have objects : m.objects.modify r (fun o => g (f o)) = (m.objects.modify r f).modify r g :=
      Array.ext (by simp only [Array.size_modify]) fun i _ _ => by
        simp only [Array.getElem_modify]
        split <;> rfl
    show EStateM.Result.ok () _ = EStateM.Result.ok () _
    rw [objects]
  rw [both]
  exact first.bind fun _ => second

section Furnish

variable (free : ∀ k, D.free k)
include free

/-- An object gets a property. -/
theorem define (r : Ref) (k : Key) (p : Property) :
    D.Keeps depth top P (Eval.change r (·.define k p)) :=
  change_within (fun _ => free k) (Object.within_define k p)

/-- An object gets some properties, one after the other. -/
theorem defineAll (r : Ref) (properties : List (String × Property)) :
    D.Keeps depth top P (Eval.change r fun o =>
      properties.foldl (fun o (name, p) => o.define (Key.ofString name) p) o) := by
  induction properties with
  | nil => exact change_within (k := lengthKey) (fun _ => free _) ⟨fun _ => rfl, fun _ => id, fun _ _ _ => rfl⟩
  | cons first rest ih => exact change_change (define free r _ _) ih

@[grind .] theorem addFunction (owner : Ref) (name : String) (b : Builtin) (length : Nat) :
    D.Keeps depth top P (Realm.addFunction owner name b length) := by
  refine (newFunction_yields _ _ ?_).keeps.bind fun r => .bind (define free _ _ _) fun _ => .pure r
  rintro _ _ _ ⟨⟩

@[grind .] theorem addAll {α : Type} (owner : Ref) (wrap : α → Builtin)
    (family : List (String × α × Nat)) : D.Keeps depth top P (Realm.addAll owner wrap family) := by
  unfold Realm.addAll
  grind

@[grind .] theorem addMaker (name : String) (m : Maker) (parent : Ref) (length : Nat) :
    D.Keeps depth top P (Realm.addMaker name m parent length) :=
  .bind (addFunction free _ _ _ _) fun _ => .bind (define free _ _ _) fun _ =>
    .bind (define free _ _ _) fun _ => .pure _

@[grind .] theorem addError (kind : ErrorKind) :
    D.Keeps depth top P (Realm.addError kind) :=
  .bind (addMaker free _ _ _ _) fun _ => .bind (define free _ _ _) fun _ => define free _ _ _

/-- **What every script finds is made**, and the discipline is kept where everything is free. -/
theorem furnish : D.Keeps depth top P Realm.furnish :=
  have function := @addFunction D depth top P free
  have all := fun {α} => @addAll D depth top P free α
  have maker := @addMaker D depth top P free
  .bind (maker _ _ _ _) fun _ => .bind (function _ _ _ _) fun _ =>
    .bind (all _ _ _) fun _ => .bind (maker _ _ _ _) fun _ =>
    .bind (all _ _ _) fun _ => .bind (maker _ _ _ _) fun _ =>
    .bind (function _ _ _ _) fun _ => .bind (all _ _ _) fun _ =>
    .bind (maker _ _ _ _) fun _ => .bind (all _ _ _) fun _ =>
    .bind (maker _ _ _ _) fun _ => .bind (all _ _ _) fun _ =>
    .bind (maker _ _ _ _) fun _ => .bind (function _ _ _ _) fun _ =>
    .bind (all _ _ _) fun _ => .bind (maker _ _ _ _) fun _ =>
    .bind (all _ _ _) fun _ => .bind (.forM (addError free) _) fun _ =>
    .bind (function _ _ _ _) fun _ => .bind (all _ _ _) fun _ =>
    .bind .newObject fun _ => .bind (all _ _ _) fun _ => defineAll free _ _

end Furnish

/-- A host function is added under a name that is free. -/
theorem addHost {name : String} (free : D.free (Key.ofUnits (Units.ofString name)))
    (length index : Nat) : D.Keeps depth top P (Realm.addHost name length index) := by
  unfold Realm.addHost
  refine .bind (.object _) fun o => ?_
  split
  · exact .fail _ _
  · refine (newFunction_yields _ _ ?_).keeps.bind fun r => .defineGlobal free _
    rintro _ _ _ ⟨⟩

/-! ## Thrown values -/

@[grind .] theorem thrownText (v : Value) : D.Keeps depth top P (Eval.thrownText v) := by
  unfold Eval.thrownText
  cases v with
  | object r =>
    refine .bind (.object r) fun o => ?_
    cases o.kind <;> grind
  | _ => grind

end Keeps

/-! ## Outcomes -/

section Outcomes

variable {α : Type} {x : Eval α} {m : Machine} (keeps : D.Keeps m.depth top P x)
  (holds : D.holds m.objects m.scopes) (on : P.on m.scopes)
include keeps holds on

/-- **The heap that is left behind** is as the discipline wants it, and where a level was left, one
is left in any case. -/
theorem Keeps.finish :
    let after := (Eval.finish x m).2
    D.holds after.objects after.scopes ∧ (m.depth < top → after.depth < top) := by
  have ends := keeps.ends m rfl holds on
  unfold Eval.finish
  cases outcome : x m with
  | ok a after =>
    rw [outcome] at ends
    exact ⟨ends.2.1, fun left => ends.1 ▸ left⟩
  | error halt after =>
    rw [outcome] at ends
    cases halt with
    | broken message => exact ⟨ends.2, fun _ => D.fallen_lt ends.1⟩
    | limit => exact ⟨ends.2.1, fun left => ends.1 ▸ left⟩
    | thrown v =>
      obtain ⟨count, holds, _⟩ := ends
      have keeps : D.Keeps m.depth top any (Eval.thrownText v) := .thrownText v
      have shown := keeps.ends after count holds trivial
      cases text : Eval.thrownText v after with
      | ok u last =>
        rw [text] at shown
        simp only [text]
        exact ⟨shown.2.1, fun left => shown.1 ▸ left⟩
      | error again last =>
        rw [text] at shown
        simp only [text]
        cases again with
        | broken message => exact ⟨shown.2, fun _ => D.fallen_lt shown.1⟩
        | limit | thrown _ => exact ⟨shown.2.1, fun left => shown.1 ▸ left⟩

/-- A computation that succeeds leaves as many calls as it found, and the scopes that it found. -/
theorem Keeps.of_ok {a : α} {after : Machine} (ran : x m = .ok a after) :
    after.depth = m.depth ∧ D.holds after.objects after.scopes ∧ D.later m.scopes after.scopes := by
  have ends := keeps.ends m rfl holds on
  rw [ran] at ends
  exact ⟨ends.1, ends.2.1, ends.2.2.1⟩

end Outcomes

end Discipline

end ProxyAutoConfig.Script
