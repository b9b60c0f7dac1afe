import ProxyAutoConfig.Proofs.Script.Declarations

/-!
# Objects that stay as they are

A script may change whatever it can reach, the methods of texts among it. One that does nothing but
declare functions makes new objects, and changes no other object than the global one
(`Eval.Contained.runScript`); and so do host functions when they are given to scripts
(`Eval.Contained.addHost`).
-/

namespace ProxyAutoConfig.Script

open ProxyAutoConfig.Text

/-- **All objects but the global one** are as they were. -/
def KeepsOthers (before after : Array Object) : Prop :=
  ∀ (q : Ref) (o : Object), q ≠ Well.global → before[q]? = some o → after[q]? = some o

namespace KeepsOthers

variable {before middle after : Array Object}

theorem refl (objects : Array Object) : KeepsOthers objects objects :=
  fun _ _ _ there => there

theorem trans (first : KeepsOthers before middle) (second : KeepsOthers middle after) :
    KeepsOthers before after :=
  fun q o other there => second q o other (first q o other there)

/-- An object is made. -/
theorem push (keeps : KeepsOthers before after) (o : Object) : KeepsOthers before (after.push o) := by
  intro q other ne there
  have there := keeps q other ne there
  have within : q < after.size := (Array.getElem?_eq_some_iff.mp there).1
  rw [Array.getElem?_push, if_neg (Nat.ne_of_lt within), there]

/-- The global object is changed, or one that was not there before. -/
theorem modify (keeps : KeepsOthers before after) {q : Ref}
    (mine : q = Well.global ∨ before.size ≤ q) (g : Object → Object) :
    KeepsOthers before (after.modify q g) := by
  intro p o other there
  have ne : q ≠ p := by
    have within : p < before.size := (Array.getElem?_eq_some_iff.mp there).1
    rcases mine with rfl | new
    · exact Ne.symm other
    · exact Nat.ne_of_gt (Nat.lt_of_lt_of_le within new)
  rw [Array.getElem?_modify, if_neg ne, keeps p o other there]

end KeepsOthers

/-- **A computation that leaves all objects but the global one as they are**, where it gives a value. -/
def Eval.Contained {α : Type} (x : Eval α) : Prop :=
  ∀ m a after, x m = .ok a after → KeepsOthers m.objects after.objects

namespace Eval.Contained

variable {α β : Type} {x : Eval α}

theorem bind {f : α → Eval β} (first : Contained x) (next : ∀ a, Contained (f a)) :
    Contained (x >>= f) := by
  intro m b after ran
  obtain ⟨a, middle, here, there⟩ := Outcome.exists_of_bind_ok ran
  exact (first m a middle here).trans (next a middle b after there)

theorem pure (a : α) : Contained (pure a) := by
  rintro m _ _ ⟨⟩
  exact .refl m.objects

/-- What is only read. -/
theorem read (f : Machine → α) : Contained fun m => .ok (f m) m := by
  rintro m _ _ ⟨⟩
  exact .refl m.objects

theorem forM {f : α → Eval PUnit} {as : List α} (each : ∀ a ∈ as, Contained (f a)) :
    Contained (as.forM f) := by
  induction as with
  | nil => exact .pure _
  | cons a rest ih =>
    obtain ⟨first, others⟩ := List.forall_mem_cons.mp each
    exact first.bind fun _ => ih others

/-- A computation that fails gives no value. -/
theorem fail (kind : ErrorKind) (message : String) : Contained (fail kind message : Eval α) := by
  intro m a after ran
  obtain ⟨_, _, _, thrown⟩ := Outcome.exists_of_bind_ok ran
  cases thrown

theorem newFunction (code : Code) (name : Units) (length : Nat) :
    Contained (newFunction code name length) := by
  rintro m _ _ ⟨⟩
  exact (KeepsOthers.refl m.objects).push _

theorem changeGlobal (g : Object → Object) : Contained (change Well.global g) := by
  rintro m _ _ ⟨⟩
  exact (KeepsOthers.refl m.objects).modify (.inl rfl) g

theorem nested (inside : Contained x) : Contained (nested x) := by
  rintro ⟨objects, scopes, depth, rounds⟩ a after ran
  rw [Eval.nested] at ran
  cases outcome : x ⟨objects, scopes, depth + 1, 0⟩ with
  | ok b m =>
    rw [outcome] at ran
    cases ran
    exact inside ⟨objects, scopes, depth + 1, 0⟩ _ m outcome
  | error halt m =>
    rw [outcome] at ran
    cases halt <;> cases ran

theorem globalProperty? (x : Units) : Contained (globalProperty? x) :=
  .bind (.read _) fun _ => .pure _

theorem checkVariable (x : Units) : Contained (checkVariable x) := by
  refine .bind (.read _) fun known => ?_
  split
  · exact .fail _ _
  · exact .pure _

theorem checkFunction (x : Units) : Contained (checkFunction x) := by
  refine .bind (.globalProperty? x) fun found => ?_
  split
  · split
    · exact .pure _
    · exact .fail _ _
  · exact .pure _

theorem declareFunction (x : Units) (v : Value) : Contained (declareFunction x v) := by
  unfold Eval.declareFunction
  refine .bind (.globalProperty? x) fun found => ?_
  dsimp only
  split <;> exact .bind (.pure _) fun _ => .changeGlobal _

/-- **A function that is declared** is made of new objects. -/
theorem declare {f : Function} (modest : f.Modest) : Contained (declare f) := by
  refine .bind (fun m v after made => ?_) fun v => .declareFunction _ v
  rw [modest.makeFunction_eq] at made
  obtain ⟨_, _, function, made⟩ := Outcome.exists_of_bind_ok made
  obtain ⟨_, _, prototype, done⟩ := Outcome.exists_of_bind_ok made
  obtain ⟨_, _, object, prototype⟩ := Outcome.exists_of_bind_ok prototype
  obtain ⟨_, _, constructor', prototype⟩ := Outcome.exists_of_bind_ok prototype
  cases function
  cases object
  cases constructor'
  cases prototype
  cases done
  apply KeepsOthers.modify
  · apply KeepsOthers.modify
    · exact ((KeepsOthers.refl m.objects).push _).push _
    · exact .inr (Array.size_push _ ▸ Nat.le_succ _)
  · exact .inr (Nat.le_refl _)

/-- **A script of function declarations.** -/
theorem runScript {program : Program} {fs : List Function} (declares : program.Declares fs)
    (h : Embedding) (levels : Nat) : Contained (runScript h levels program) := by
  have functions (w : Surroundings) (frame : Frame) (fs : List Function) :
      Contained (Stmt.execAll w (fs.map .function) frame) := by
    induction fs with
    | nil =>
      simp only [List.map_nil, Stmt.execAll]
      exact .pure _
    | cons f rest ih =>
      simp only [List.map_cons, Stmt.execAll, Stmt.exec, pure_bind]
      exact ih
  rw [declares.runScript_eq]
  exact .bind (.forM fun _ _ => .checkVariable _) fun _ =>
    .bind (.forM fun _ _ => .checkFunction _) fun _ =>
      .bind (.forM fun f mem => .declare (declares.modest f mem)) fun _ =>
        .nested (.bind (.read _) fun _ => .bind (functions _ _ fs) fun _ => .pure _)

theorem addHost (name : String) (length index : Nat) :
    Contained (Realm.addHost name length index) := by
  refine .bind (.read _) fun o => ?_
  split
  · exact .fail _ _
  · exact .bind (.newFunction _ _ _) fun _ => .changeGlobal _

end Eval.Contained

end ProxyAutoConfig.Script
