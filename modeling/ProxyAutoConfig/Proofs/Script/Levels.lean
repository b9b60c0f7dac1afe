import ProxyAutoConfig.Proofs.Script.Discipline.Calls

/-!
# Levels of calls

A machine counts the calls that are under way. A computation is steady when it leaves the count as
it found it, whether it returns, throws or exceeds a limit; and when a host function breaks down in
it, which leaves the calls under way counted for good, the count does not go down and stays below a
bound. So nothing but a breakdown takes levels away, and nothing gives them back
(`Eval.Steady.finish`).

Every computation that keeps a discipline is steady. So steadiness is what is left of a discipline
that asks nothing of the heap (`Discipline.idle`), and all that is known of disciplines holds for
steady computations (`Eval.steady_iff`).
-/

namespace ProxyAutoConfig.Script

open ProxyAutoConfig.Text Discipline Condition

namespace Eval

variable {α β : Type}

/-- A result behind which `depth` calls are counted, or after a breakdown at least as many, and fewer
than `top`. -/
def Leaves (depth top : Nat) : EStateM.Result Halt Machine α → Prop
  | .ok _ m => m.depth = depth
  | .error (.broken _) m => depth ≤ m.depth ∧ m.depth < top
  | .error _ m => m.depth = depth

/-- **A steady computation**: where it finds `depth` calls, it leaves as many, or after a breakdown at
least as many, and fewer than `top`. -/
structure Steady (depth top : Nat) (x : Eval α) : Prop where
  leaves : ∀ m, m.depth = depth → Leaves depth top (x m)

/-- Calls that are steady, whatever is called. -/
def SteadyCalls (depth top : Nat) (call : Caller) : Prop :=
  ∀ c, Steady depth top (call c)

end Eval

/-- **A steady surrounding**: its host functions are steady wherever a level is left. -/
def Embedding.Steady (h : Embedding) (top : Nat) : Prop :=
  ∀ depth < top, ∀ call, Eval.SteadyCalls depth top call →
    ∀ i arguments, Eval.Steady depth top (h.run i call arguments)

/-! ## The discipline that asks for nothing -/

namespace Discipline

/-- The discipline that asks nothing of the heap. -/
def idle : Discipline where
  holds _ _ := True
  later _ _ := True
  mine _ := True
  free _ := True
  lawful _ _ _ := True
  fallen depth top count := depth ≤ count ∧ count < top
  fallen_here left := ⟨Nat.le_refl _, left⟩
  fallen_deeper fallen := ⟨Nat.le_of_succ_le fallen.1, fallen.2⟩
  fallen_lt := And.right
  later_refl _ := trivial
  later_trans _ _ := trivial
  holds_later _ _ := trivial
  lawful_later _ _ := trivial
  mine_new _ := trivial
  mine_held _ _ _ _ := trivial
  free_of_mine _ _ := trivial
  lawful_held _ _ _ := trivial
  push _ _ := trivial
  modify _ _ _ := trivial
  modify_within _ _ _ := trivial

/-- All syntax may run everywhere. -/
def idleSite : idle.Site where
  here _ := any
  allows _ := True
  child _ _ _ := ⟨trivial, trivial⟩
  copy _ := ⟨trivial, trivial⟩
  bind _ _ _ := trivial
  assign _ _ _ _ := trivial
  outside _ _ _ := trivial
  global _ := trivial
  function _ _ _ := trivial
  write _ _ := trivial

theorem idle_enters : idle.Enters :=
  fun _ => ⟨idleSite, fun _ _ _ =>
    ⟨fun _ _ => trivial, fun _ _ _ => ⟨trivial, trivial⟩⟩⟩

end Discipline

namespace Eval

variable {α : Type} {depth top : Nat} {x : Eval α}

theorem leaves_iff {scopes : Array Scope} {result : EStateM.Result Halt Machine α} :
    Leaves depth top result ↔ idle.Ends depth top scopes (fun _ => any) result := by
  cases result with
  | ok a m => exact ⟨fun count => ⟨count, trivial, trivial, trivial⟩, And.left⟩
  | error halt m =>
    cases halt with
    | broken message => exact ⟨fun left => ⟨left, trivial⟩, And.left⟩
    | limit | thrown v => exact ⟨fun count => ⟨count, trivial, trivial⟩, And.left⟩

/-- **Steady computations are those that keep the discipline that asks for nothing.** -/
theorem steady_iff : Steady depth top x ↔ idle.Keeps depth top any x :=
  ⟨fun steady => ⟨fun m found _ _ => leaves_iff.mp (steady.leaves m found)⟩,
    fun keeps => ⟨fun m found => leaves_iff.mpr (keeps.ends m found trivial trivial)⟩⟩

theorem steadyCalls_iff {call : Caller} :
    SteadyCalls depth top call ↔ idle.KeepsCalls depth top call :=
  ⟨fun steady _ c => (steady_iff.mp (steady c)).mono (.any _),
    fun keeps c => steady_iff.mpr (keeps any c)⟩

/-- A host function may break down where a level is left. -/
theorem Steady.broken (left : depth < top) (message : String) :
    Steady depth top (throw (.broken message) : Eval α) :=
  steady_iff.mpr (.broken left message)

/-! ## Levels that are left -/

/-- **Computations that agree at a depth**: they cannot be told apart where `depth` calls are counted. -/
def AgreeAt (depth : Nat) (x y : Eval α) : Prop :=
  ∀ m, m.depth = depth → x m = y m

theorem AgreeAt.refl (x : Eval α) : AgreeAt depth x x :=
  fun _ _ => rfl

/-- What comes behind a steady computation finds the depth at which it agrees. -/
theorem AgreeAt.bind {β : Type} {y : Eval α} {f g : α → Eval β} (first : AgreeAt depth x y)
    (steady : Steady depth top x) (next : ∀ a, AgreeAt depth (f a) (g a)) :
    AgreeAt depth (x >>= f) (y >>= g) := by
  intro m found
  have leaves := steady.leaves m found
  have same := first m found
  cases outcome : x m with
  | ok a after =>
    rw [outcome] at leaves same
    rw [Outcome.bind_of_ok outcome, Outcome.bind_of_ok same.symm]
    exact next a after leaves
  | error halt after =>
    rw [outcome] at same
    rw [Outcome.bind_of_error outcome, Outcome.bind_of_error same.symm]

section

variable {call call' : Caller} (agree : ∀ c, AgreeAt depth (call c) (call' c))
  (steady : SteadyCalls depth top call)
include agree steady

theorem AgreeAt.methodValue (r : Ref) (keys : List Key) :
    AgreeAt depth (Eval.methodValue call r keys) (Eval.methodValue call' r keys) := by
  induction keys with
  | nil => exact .refl _
  | cons k ks ih =>
    refine (AgreeAt.refl _).bind (steady_iff.mpr (.get r k) : Steady depth top _) fun f => ?_
    refine (AgreeAt.refl _).bind (steady_iff.mpr (.code? f) : Steady depth top _) fun code => ?_
    split
    · refine (agree _).bind (steady _) fun v => ?_
      cases v with
      | object q => exact ih
      | _ => exact .refl _
    · exact ih

/-- A value has one text, whichever of two ways to carry out calls is used that agree. -/
theorem AgreeAt.toText (v : Value) : AgreeAt depth (Eval.toText call v) (Eval.toText call' v) := by
  cases v with
  | object r =>
    have calls := steadyCalls_iff.mp steady
    exact (AgreeAt.methodValue agree steady r _).bind (steady_iff.mpr (.methodValue calls r _))
      fun _ => .refl _
  | _ => exact .refl _

end

/-- **The host's calls are carried out with the levels that are left** at a depth. -/
theorem agreeAt_hostCaller (h : Embedding) (levels depth : Nat) (c : Call) :
    AgreeAt depth (hostCaller h levels c) (caller h (levels - depth) c) := by
  rintro m rfl
  rfl

/-- Where a level is left, the host's call is carried out. -/
theorem hostCaller_eq (h : Embedding) {levels : Nat} {m : Machine} (left : m.depth < levels)
    (c : Call) :
    hostCaller h levels c m =
      perform h (caller h (levels - m.depth - 1))
        (callerBeside h (caller h (levels - m.depth - 1)) (nesting - 1)) c m := by
  obtain ⟨rest, sum⟩ : ∃ rest, levels - m.depth = rest + 1 := ⟨levels - m.depth - 1, by omega⟩
  rw [hostCaller, sum]
  rfl

/-- Nothing breaks down where there is no level at all. -/
theorem Leaves.of_error {halt : Halt} {m : Machine}
    (leaves : Leaves depth 0 (.error halt m : EStateM.Result Halt Machine α)) : m.depth = depth := by
  cases halt with
  | broken message => exact absurd leaves.2 (Nat.not_lt_zero _)
  | limit | thrown v => exact leaves

/-- **Levels are taken by breakdowns alone.** Behind a steady computation as many calls are counted as
before it, or a host function has broken down; then there may be more, but fewer than `top`. -/
theorem Steady.finish {m : Machine} (steady : Steady m.depth top x) :
    let (outcome, after) := Eval.finish x m
    after.depth = m.depth ∨
      (∃ message, outcome = .error (.broken message)) ∧ m.depth ≤ after.depth ∧ after.depth < top := by
  have leaves := steady.leaves m rfl
  unfold Eval.finish
  cases outcome : x m with
  | ok a after =>
    rw [outcome] at leaves
    exact .inl leaves
  | error halt after =>
    rw [outcome] at leaves
    cases halt with
    | broken message => exact .inr ⟨⟨message, rfl⟩, leaves⟩
    | limit => exact .inl leaves
    | thrown v =>
      -- The text of the value is found without a call, so this is no place for a breakdown.
      have shown : Steady after.depth 0 (thrownText v) := steady_iff.mpr (.thrownText v)
      have behind := shown.leaves after rfl
      simp only
      cases text : thrownText v after with
      | ok u last =>
        rw [text] at behind
        exact .inl (Eq.trans behind leaves)
      | error again last =>
        rw [text] at behind
        exact .inl (behind.of_error.trans leaves)

end Eval

theorem Embedding.steady_iff {h : Embedding} {top : Nat} : h.Steady top ↔ h.Keeps idle top := by
  constructor
  · intro steady depth left call calls P i arguments
    have run := steady depth left call (Eval.steadyCalls_iff.mpr calls) i arguments
    exact (Eval.steady_iff.mp run).mono (.any P)
  · intro keeps depth left call calls i arguments
    exact Eval.steady_iff.mpr (keeps depth left call (Eval.steadyCalls_iff.mp calls) any i arguments)

end ProxyAutoConfig.Script
