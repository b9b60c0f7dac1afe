import Mathlib.Data.List.Forall2
import ProxyAutoConfig.Failure

/-!
# Outcomes in sequence

What an outcome that was put together from others says about them. A sequence of steps succeeds
when every step does, and hands on what each of them gave, in their order; it fails as the first
step that fails, so that its failures are of the kinds that its steps have. Steps with a state hand
on the state too, and a step that fails leaves it as it was at that moment.
-/

namespace ProxyAutoConfig.Outcome

variable {α β : Type}

/-! ## Two steps, whatever failures are like -/

section Steps

variable {ε : Type} {x : Except ε α}

/-- After a success comes the next step. -/
@[simp] theorem ok_bind (a : α) (f : α → Except ε β) : Except.ok a >>= f = f a := rfl

/-- After a failure comes nothing. -/
@[simp] theorem error_bind (failure : ε) (f : α → Except ε β) :
    Except.error failure >>= f = .error failure := rfl

/-- A step that succeeds has a result. -/
theorem exists_eq_ok (succeeds : x.isOk = true) : ∃ a, x = .ok a := by
  cases x with
  | ok a => exact ⟨a, rfl⟩
  | error failure => cases succeeds

/-- What is made of a result is there when the result is. -/
theorem map_eq_ok {f : α → β} {b : β} : x.map f = .ok b ↔ ∃ a, x = .ok a ∧ f a = b := by
  cases x with
  | ok a => simp only [Except.map, Except.ok.injEq, exists_eq_left']
  | error failure => simp only [Except.map, reduceCtorEq, false_and, exists_false]

/-- Two steps succeed when both do. -/
theorem bind_eq_ok {f : α → Except ε β} {b : β} :
    x >>= f = .ok b ↔ ∃ a, x = .ok a ∧ f a = .ok b := by
  cases x with
  | ok a => simp only [ok_bind, Except.ok.injEq, exists_eq_left']
  | error failure => simp only [error_bind, reduceCtorEq, false_and, exists_false]

/-- Two steps fail as the first one, or as the second one behind a first one that succeeds. -/
theorem bind_eq_error {f : α → Except ε β} {failure : ε} :
    x >>= f = .error failure ↔
      x = .error failure ∨ ∃ a, x = .ok a ∧ f a = .error failure := by
  cases x with
  | ok a => simp only [ok_bind, reduceCtorEq, Except.ok.injEq, exists_eq_left', false_or]
  | error _ =>
    simp only [error_bind, Except.error.injEq, reduceCtorEq, false_and, exists_false, or_false]

end Steps

/-! ## Traversals -/

/-- **Every step of a traversal that succeeds succeeds**, and the results stand in the order of the
steps. -/
theorem mapM_eq_ok {f : α → Outcome β} {as : List α} {bs : List β} :
    as.mapM f = .ok bs ↔ List.Forall₂ (fun a b => f a = .ok b) as bs := by
  induction as generalizing bs with
  | nil =>
    rw [List.mapM_nil, List.forall₂_nil_left_iff]
    exact ⟨fun h => (Except.ok.inj h).symm, fun h => h ▸ rfl⟩
  | cons a as ih =>
    rw [List.mapM_cons, List.forall₂_cons_left_iff, bind_eq_ok]
    constructor
    · rintro ⟨b, hb, rest⟩
      obtain ⟨bs', hbs', heq⟩ := bind_eq_ok.mp rest
      exact ⟨b, bs', hb, ih.mp hbs', (Except.ok.inj heq).symm⟩
    · rintro ⟨b, bs', hb, hbs', rfl⟩
      exact ⟨b, hb, bind_eq_ok.mpr ⟨bs', ih.mpr hbs', rfl⟩⟩

/-- What every step of a traversal makes sure of holds for all of its results. -/
theorem forall_of_mapM {f : α → Outcome β} {P : β → Prop} (each : ∀ a b, f a = .ok b → P b)
    {as : List α} {bs : List β} (done : as.mapM f = .ok bs) : ∀ b ∈ bs, P b := by
  induction mapM_eq_ok.mp done with
  | nil => exact List.forall_mem_nil _
  | cons here behind ih =>
    exact List.forall_mem_cons.mpr ⟨each _ _ here, ih (mapM_eq_ok.mpr behind)⟩

/-- A traversal succeeds when each of its steps does, and its results are related to the steps as
each one is. -/
theorem exists_mapM_eq_ok {f : α → Outcome β} {R : α → β → Prop} {as : List α}
    (each : ∀ a ∈ as, ∃ b, f a = .ok b ∧ R a b) :
    ∃ bs, as.mapM f = .ok bs ∧ List.Forall₂ R as bs := by
  induction as with
  | nil => exact ⟨[], rfl, .nil⟩
  | cons a as ih =>
    obtain ⟨here, behind⟩ := List.forall_mem_cons.mp each
    obtain ⟨b, hb, rb⟩ := here
    obtain ⟨bs, hbs, rbs⟩ := ih behind
    exact ⟨b :: bs, mapM_eq_ok.mpr (.cons hb (mapM_eq_ok.mp hbs)), .cons rb rbs⟩

/-- Of two traversals, the second one over what the first one gives, the results are related to the
first steps as each pair of steps relates them. -/
theorem forall₂_of_mapM_mapM {γ : Type} {f : α → Outcome β} {g : β → Outcome γ} {R : α → γ → Prop}
    {as : List α} {bs : List β} {cs : List γ} (first : as.mapM f = .ok bs)
    (second : bs.mapM g = .ok cs)
    (each : ∀ a ∈ as, ∀ b c, f a = .ok b → g b = .ok c → R a c) : List.Forall₂ R as cs := by
  have steps := mapM_eq_ok.mp first
  have steps' := mapM_eq_ok.mp second
  clear first second
  induction steps generalizing cs with
  | nil =>
    cases steps'
    exact .nil
  | cons here _ ih =>
    cases steps' with
    | cons here' behind' =>
      obtain ⟨head, tail⟩ := List.forall_mem_cons.mp each
      exact .cons (head _ _ here here') (ih tail behind')

/-- **A traversal fails as its first step that fails.** -/
theorem mapM_eq_error {f : α → Outcome β} {as : List α} {failure : Failure} :
    as.mapM f = .error failure ↔
      ∃ before a after, as = before ++ a :: after ∧ (∀ x ∈ before, ∃ b, f x = .ok b) ∧
        f a = .error failure := by
  induction as with
  | nil =>
    constructor
    · intro h
      cases h
    · rintro ⟨before, a, after, h, _⟩
      exact absurd h.symm (List.append_ne_nil_of_right_ne_nil _ (List.cons_ne_nil _ _))
  | cons a as ih =>
    rw [List.mapM_cons, bind_eq_error]
    constructor
    · rintro (here | ⟨b, hb, rest⟩)
      · exact ⟨[], a, as, rfl, List.forall_mem_nil _, here⟩
      · rcases bind_eq_error.mp rest with there | ⟨_, _, done⟩
        · obtain ⟨before, c, after, rfl, passed, failed⟩ := ih.mp there
          refine ⟨a :: before, c, after, rfl, ?_, failed⟩
          rintro x (_ | ⟨_, mem⟩)
          · exact ⟨b, hb⟩
          · exact passed x mem
        · cases done
    · rintro ⟨before, c, after, split, passed, failed⟩
      cases before with
      | nil =>
        obtain ⟨rfl, rfl⟩ := List.cons.inj split
        exact .inl failed
      | cons d before =>
        obtain ⟨rfl, rfl⟩ := List.cons.inj split
        obtain ⟨b, hb⟩ := passed a List.mem_cons_self
        have there := ih.mpr
          ⟨before, c, after, rfl, fun x mem => passed x (List.mem_cons_of_mem _ mem), failed⟩
        exact .inr ⟨b, hb, bind_eq_error.mpr (.inl there)⟩

/-- A traversal fails where one of its steps fails. -/
theorem mapM_fails_iff {f : α → Outcome β} {as : List α} :
    (∃ failure, as.mapM f = .error failure) ↔ ∃ a ∈ as, ∃ failure, f a = .error failure := by
  induction as with
  | nil =>
    constructor
    · rintro ⟨_, failed⟩
      cases failed
    · rintro ⟨_, mem, _⟩
      cases mem
  | cons a as ih =>
    rw [List.exists_mem_cons_iff, ← ih, List.mapM_cons]
    simp only [bind_eq_error]
    constructor
    · rintro ⟨failure, here | ⟨b, _, rest⟩⟩
      · exact .inl ⟨failure, here⟩
      · rcases rest with there | ⟨_, _, done⟩
        · exact .inr ⟨failure, there⟩
        · cases done
    · rintro (⟨failure, here⟩ | ⟨failure, there⟩)
      · exact ⟨failure, .inl here⟩
      · cases here : f a with
        | error other => exact ⟨other, .inl rfl⟩
        | ok b => exact ⟨failure, .inr ⟨b, rfl, .inl there⟩⟩

/-! ## Kinds of failures -/

/-- **Every failure is of one of these kinds.** -/
def FailsAs (kinds : List Failure.Kind) (x : Outcome α) : Prop :=
  ∀ failure, x = .error failure → failure.kind ∈ kinds

namespace FailsAs

variable {kinds : List Failure.Kind} {x : Outcome α}

theorem ok (a : α) : FailsAs kinds (.ok a : Outcome α) := nofun

theorem error {failure : Failure} (kind : failure.kind ∈ kinds) :
    FailsAs kinds (.error failure : Outcome α) := by
  rintro _ ⟨⟩
  exact kind

/-- Two steps fail as either of them does. -/
theorem bind {f : α → Outcome β} (first : FailsAs kinds x) (next : ∀ a, FailsAs kinds (f a)) :
    FailsAs kinds (x >>= f) := by
  cases x with
  | ok a => exact next a
  | error failure => exact .error (first failure rfl)

theorem map {f : α → β} (first : FailsAs kinds x) : FailsAs kinds (x.map f) := by
  cases x with
  | ok a => exact .ok _
  | error failure => exact .error (first failure rfl)

/-- A traversal fails as one of its steps does. -/
theorem mapM {f : α → Outcome β} (each : ∀ a, FailsAs kinds (f a)) (as : List α) :
    FailsAs kinds (as.mapM f) := by
  intro failure failed
  obtain ⟨_, a, _, _, _, here⟩ := mapM_eq_error.mp failed
  exact each a failure here

theorem mono {wider : List Failure.Kind} (fails : FailsAs kinds x) (sub : kinds ⊆ wider) :
    FailsAs wider x :=
  fun failure failed => sub (fails failure failed)

end FailsAs

/-! ## Steps with a state -/

variable {ε σ : Type} {x : EStateM ε σ α} {f : α → EStateM ε σ β} {state after : σ}

/-- After a step that succeeds comes the next one, in the state that it leaves. -/
theorem bind_of_ok {a : α} (first : x state = .ok a after) : (x >>= f) state = f a after := by
  show EStateM.bind x f state = _
  rw [EStateM.bind, first]

/-- After a step that fails comes nothing. -/
theorem bind_of_error {failure : ε} (first : x state = .error failure after) :
    (x >>= f) state = .error failure after := by
  show EStateM.bind x f state = _
  rw [EStateM.bind, first]

/-- Two steps succeed when both do, the second one in the state that the first one leaves. -/
theorem exists_of_bind_ok {b : β} (done : (x >>= f) state = .ok b after) :
    ∃ a middle, x state = .ok a middle ∧ f a middle = .ok b after := by
  cases first : x state with
  | ok a middle => exact ⟨a, middle, rfl, (bind_of_ok first).symm.trans done⟩
  | error failure middle => cases (bind_of_error first).symm.trans done

end ProxyAutoConfig.Outcome
