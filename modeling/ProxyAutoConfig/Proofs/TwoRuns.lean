import Mathlib.Data.List.Forall2
import ProxyAutoConfig.Proofs.Outcome
import ProxyAutoConfig.Source.Journal

/-!
# Two runs side by side

One program on two inputs. The inputs are related, and so are the states at every moment; what is
asked is that the two runs go on alike: they fail at the same step with the same failure, or both
succeed with related results.

Every way to build a computation keeps this up, so that two runs of a program are compared by
comparing its steps (`Paired.bind`, `Paired.forM`), and a traversal by comparing the work on one
element (`Outcome.Alike.mapM`).
-/

namespace ProxyAutoConfig

variable {ε σ α β γ δ : Type} {R : α → β → Prop} {Q : γ → δ → Prop}

/-! ## Outcomes -/

/-- **Two outcomes of one kind**: two successes with related results, or the same failure. -/
inductive Outcome.Alike (R : α → β → Prop) : Except ε α → Except ε β → Prop
  | ok {a : α} {b : β} : R a b → Alike R (.ok a) (.ok b)
  | error (failure : ε) : Alike R (.error failure) (.error failure)

namespace Outcome.Alike

/-- Every outcome is like itself where every result is. -/
theorem refl {R : α → α → Prop} (each : ∀ a, R a a) (x : Except ε α) : Outcome.Alike R x x := by
  cases x with
  | ok a => exact .ok (each a)
  | error failure => exact .error failure

/-- Of two results more may be true than that they are related. -/
theorem imp {Q : α → β → Prop} {x : Except ε α} {y : Except ε β} (alike : Outcome.Alike R x y)
    (more : ∀ a b, x = .ok a → R a b → Q a b) : Outcome.Alike Q x y := by
  cases alike with
  | ok related => exact .ok (more _ _ rfl related)
  | error failure => exact .error failure

/-- One step after another. -/
theorem bind {x : Except ε α} {y : Except ε β} {f : α → Except ε γ} {g : β → Except ε δ}
    (first : Outcome.Alike R x y) (next : ∀ a b, R a b → Outcome.Alike Q (f a) (g b)) :
    Outcome.Alike Q (x >>= f) (y >>= g) := by
  cases first with
  | ok related => exact next _ _ related
  | error failure => exact .error failure

/-- **Traversals go on alike when the work on each element does.** -/
theorem mapM {f : α → Except ε γ} {g : β → Except ε δ}
    (each : ∀ a b, R a b → Outcome.Alike Q (f a) (g b)) {as : List α} {bs : List β}
    (related : List.Forall₂ R as bs) :
    Outcome.Alike (List.Forall₂ Q) (as.mapM f) (bs.mapM g) := by
  induction related with
  | nil => exact .ok .nil
  | cons here _ ih =>
    rw [List.mapM_cons, List.mapM_cons]
    refine (each _ _ here).bind fun c d one => ih.bind fun cs ds more => ?_
    exact .ok (.cons one more)

end Outcome.Alike

/-! ## Computations with a state -/

/-- **Where two runs stand after a step**: the states are related, and so are the outcomes. -/
inductive Stand (S : σ → σ → Prop) (R : α → β → Prop) :
    EStateM.Result ε σ α → EStateM.Result ε σ β → Prop
  | ok {a : α} {b : β} {s t : σ} : R a b → S s t → Stand S R (.ok a s) (.ok b t)
  | error (failure : ε) {s t : σ} : S s t → Stand S R (.error failure s) (.error failure t)

/-- **Two computations go on alike** from all related states. -/
def Paired (S : σ → σ → Prop) (R : α → β → Prop) (x : EStateM ε σ α) (y : EStateM ε σ β) : Prop :=
  ∀ s t, S s t → Stand S R (x s) (y t)

namespace Paired

variable {S : σ → σ → Prop}

theorem pure {a : α} {b : β} (related : R a b) :
    Paired S R (Pure.pure a : EStateM ε σ α) (Pure.pure b) :=
  fun _ _ states => .ok related states

/-- Both runs fail, with one failure. -/
theorem throw (failure : ε) :
    Paired S R (throw failure : EStateM ε σ α) (throw failure : EStateM ε σ β) :=
  fun _ _ states => .error failure states

theorem get : Paired S S (get : EStateM ε σ σ) (get : EStateM ε σ σ) :=
  fun _ _ states => .ok states states

theorem set {s t : σ} (states : S s t) :
    Paired S (fun _ _ => True) (set s : EStateM ε σ PUnit) (set t : EStateM ε σ PUnit) :=
  fun _ _ _ => .ok trivial states

theorem modify {f g : σ → σ} (keeps : ∀ s t, S s t → S (f s) (g t)) :
    Paired S (fun _ _ => True) (modify f : EStateM ε σ PUnit) (modify g : EStateM ε σ PUnit) :=
  fun s t states => .ok trivial (keeps s t states)

/-- **One step after another.** -/
theorem bind {x : EStateM ε σ α} {y : EStateM ε σ β} {f : α → EStateM ε σ γ}
    {g : β → EStateM ε σ δ} (first : Paired S R x y)
    (next : ∀ a b, R a b → Paired S Q (f a) (g b)) : Paired S Q (x >>= f) (y >>= g) := by
  intro s t states
  have stand := first s t states
  show Stand S Q (EStateM.bind x f s) (EStateM.bind y g t)
  -- Of the four pairs of results, the first steps can only have led to two successes or two failures.
  rw [EStateM.bind, EStateM.bind]
  cases hx : x s <;> cases hy : y t <;> rw [hx, hy] at stand <;> cases stand
  · next related states => exact next _ _ related _ _ states
  · next states => exact .error _ states

/-- **One round after another.** -/
theorem forM {f : α → EStateM ε σ PUnit} {g : β → EStateM ε σ PUnit}
    (each : ∀ a b, R a b → Paired S (fun _ _ => True) (f a) (g b)) {as : List α} {bs : List β}
    (related : List.Forall₂ R as bs) : Paired S (fun _ _ => True) (as.forM f) (bs.forM g) := by
  induction related with
  | nil => exact pure trivial
  | cons here _ ih => exact (each _ _ here).bind fun _ _ _ => ih

/-- An outcome that does not touch the journal. -/
theorem ofOutcome {S : Journal → Journal → Prop} {x : Outcome α} {y : Outcome β}
    (alike : Outcome.Alike R x y) : Paired S R (Recorded.ofOutcome x) (Recorded.ofOutcome y) := by
  cases alike with
  | ok related => exact pure related
  | error failure => exact throw failure

end Paired

end ProxyAutoConfig
