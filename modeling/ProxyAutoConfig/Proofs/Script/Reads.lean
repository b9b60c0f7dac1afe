import Mathlib.Data.List.Basic
import ProxyAutoConfig.Script.Regex.Basic

/-!
# What patterns read

A part of a pattern is given what has to match after it. It reads a text, from some place on, when the
text falls apart into what the part describes and what the rest reads (`Reads`). For the parts that have
no captures this is a matter of the text behind the place alone, so that what a whole pattern reads is
told part by part (`Reads.unit`, `Reads.digits` and so on), and a pattern that begins where a text begins
matches the texts that it reads (`Pattern.isSome_find?_iff`).
-/

namespace ProxyAutoConfig.Script.Regex

open ProxyAutoConfig.Text

variable {u : Units} {rest : Rest} {L : Units → Prop}

/-- A text, for a pattern without flags. -/
def Subject.plain (u : Units) : Subject :=
  ⟨u.toArray, false, false, false⟩

/-- **What still has to match reads the texts of a language**, from each place of the text. -/
def Reads (u : Units) (rest : Rest) (L : Units → Prop) : Prop :=
  ∀ i ≤ u.length, (rest ⟨i, []⟩).isSome ↔ L (u.drop i)

namespace Reads

/-- Where nothing has to match any more, everything has been read. -/
theorem done : Reads u some fun _ => True :=
  fun _ _ => iff_of_true rfl trivial

theorem mono {M : Units → Prop} (reads : Reads u rest L) (same : ∀ i ≤ u.length, L (u.drop i) ↔ M (u.drop i)) :
    Reads u rest M :=
  fun i within => (reads i within).trans (same i within)

/-- One unit that satisfies a condition. -/
theorem one (p : UInt16 → Bool) (reads : Reads u rest L) :
    Reads u ((Subject.plain u).one p rest) fun v => ∃ x t, v = x :: t ∧ p x ∧ L t := by
  intro i within
  simp only [Subject.one, Subject.plain, List.getElem?_toArray]
  by_cases inside : i < u.length
  · rw [List.getElem?_eq_getElem inside, List.drop_eq_getElem_cons inside]
    simp only [List.cons.injEq]
    constructor
    · intro some'
      split at some'
      next holds => exact ⟨_, _, ⟨rfl, rfl⟩, holds, (reads _ inside).mp some'⟩
      next => cases some'
    · rintro ⟨x, t, ⟨rfl, rfl⟩, holds, behind⟩
      rw [if_pos holds]
      exact (reads _ inside).mpr behind
  · rw [List.getElem?_eq_none (Nat.le_of_not_lt inside), List.drop_eq_nil_of_le (Nat.le_of_not_lt inside)]
    constructor
    · intro some'
      cases some'
    · rintro ⟨_, _, nothing, _⟩
      cases nothing

/-- A unit that stands for itself. -/
theorem unit (x : UInt16) (reads : Reads u rest L) :
    Reads u ((Node.unit x).run (.plain u) rest) fun v => ∃ t, v = x :: t ∧ L t := by
  rw [Node.run]
  refine (reads.one _).mono fun i _ => ?_
  simp only [Subject.same, Subject.plain, Bool.false_and, Bool.or_false, beq_iff_eq]
  constructor
  · rintro ⟨_, t, whole, rfl, behind⟩
    exact ⟨t, whole, behind⟩
  · rintro ⟨t, whole, behind⟩
    exact ⟨x, t, whole, rfl, behind⟩

/-- The end of the text. -/
theorem lineEnd (reads : Reads u rest L) :
    Reads u (Node.lineEnd.run (.plain u) rest) fun v => v = [] ∧ L v := by
  intro i within
  simp only [Node.run, Subject.endsLineAt, Subject.plain, Bool.false_and, Bool.or_false, beq_iff_eq,
    List.size_toArray, List.drop_eq_nil_iff]
  split
  next same => exact ⟨fun some' => ⟨Nat.le_of_eq same.symm, (reads i within).mp some'⟩,
    fun behind => (reads i within).mpr behind.2⟩
  next other =>
    exact iff_of_false Bool.false_ne_true fun behind => other (Nat.le_antisymm within behind.1)

/-- Up to so many further units. -/
theorem rounds {p : UInt16 → Bool} {step : Rest → Rest}
    (one : ∀ rest i, step rest ⟨i, []⟩ = (Subject.plain u).one p rest ⟨i, []⟩) (reads : Reads u rest L)
    (most : Nat) :
    Reads u (Regex.rounds step true rest most) fun v =>
      ∃ d t, v = d ++ t ∧ d.length ≤ most ∧ (∀ x ∈ d, p x) ∧ L t := by
  induction most with
  | zero =>
    refine reads.mono fun i _ => ⟨fun here => ⟨[], _, rfl, Nat.le_refl _, List.forall_mem_nil _, here⟩, ?_⟩
    rintro ⟨d, t, whole, short, _, behind⟩
    rw [List.eq_nil_of_length_eq_zero (Nat.eq_zero_of_le_zero short), List.nil_append] at whole
    exact whole ▸ behind
  | succ most ih =>
    intro i within
    -- A unit that is read moves the match forward, so that another round follows.
    have forward : step (fun there =>
        if there.position = i then none else Regex.rounds step true rest most there) ⟨i, []⟩ =
        (Subject.plain u).one p (Regex.rounds step true rest most) ⟨i, []⟩ := by
      rw [one]
      simp only [Subject.one, Nat.succ_ne_self, if_false]
    simp only [Regex.rounds, if_true, forward, Option.isSome_or, Bool.or_eq_true]
    rw [(ih.one p) i within, reads i within]
    constructor
    · rintro (⟨x, _, whole, holds, d, t, rfl, short, each, behind⟩ | here)
      · exact ⟨x :: d, t, whole, Nat.succ_le_succ short, List.forall_mem_cons.mpr ⟨holds, each⟩, behind⟩
      · exact ⟨[], _, rfl, Nat.zero_le _, List.forall_mem_nil _, here⟩
    · rintro ⟨d, t, whole, short, each, behind⟩
      cases d with
      | nil => exact .inr (whole ▸ behind)
      | cons x d =>
        obtain ⟨holds, each⟩ := List.forall_mem_cons.mp each
        exact .inl ⟨x, d ++ t, whole, holds, d, t, rfl, Nat.le_of_succ_le_succ short, each, behind⟩

/-- **A run of digits**: at least one, and at most so many. -/
theorem digits (most : Nat) (reads : Reads u rest L) :
    Reads u ((Node.times (.set false [.digits false]) 1 (some (most + 1)) true 0 0).run (.plain u) rest)
      fun v => ∃ d t, v = d ++ t ∧ d ≠ [] ∧ d.length ≤ most + 1 ∧ (∀ x ∈ d, isDigit x) ∧ L t := by
  obtain ⟨step, is⟩ : ∃ step : Rest → Rest, step = fun rest p =>
    (Node.set false [.digits false]).run (.plain u) rest (forget 0 0 p) := ⟨_, rfl⟩
  have one (rest : Rest) (i : Nat) :
      step rest ⟨i, []⟩ = (Subject.plain u).one isDigit rest ⟨i, []⟩ := by
    simp [is, Node.run, forget, Subject.plain, Subject.one, Item.holds]
  have further := (Reads.rounds one reads (min most ((Subject.plain u).units.size + 1))).one isDigit
  intro i within
  have ran : (Node.times (.set false [.digits false]) 1 (some (most + 1)) true 0 0).run (.plain u) rest
      ⟨i, []⟩ = (Subject.plain u).one isDigit
        (Regex.rounds step true rest (min most ((Subject.plain u).units.size + 1))) ⟨i, []⟩ := by
    rw [Node.run, ← one, is]
    rfl
  rw [ran, further i within]
  constructor
  · rintro ⟨x, _, whole, holds, d, t, rfl, short, each, behind⟩
    exact ⟨x :: d, t, whole, List.cons_ne_nil _ _,
      Nat.succ_le_succ (Nat.le_trans short (Nat.min_le_left _ _)),
      List.forall_mem_cons.mpr ⟨holds, each⟩, behind⟩
  · rintro ⟨d, t, whole, some', short, each, behind⟩
    cases d with
    | nil => exact absurd rfl some'
    | cons x d =>
      obtain ⟨holds, each⟩ := List.forall_mem_cons.mp each
      have inside : d.length ≤ u.length := by
        have length := congrArg List.length whole
        simp only [List.length_drop, List.cons_append, List.length_cons, List.length_append] at length
        omega
      refine ⟨x, d ++ t, whole, holds, d, t, rfl, Nat.le_min.mpr ⟨Nat.le_of_succ_le_succ short, ?_⟩, each,
        behind⟩
      exact Nat.le_succ_of_le inside

end Reads

/-- **A pattern that begins where a text begins** matches the texts that it reads. -/
theorem Pattern.isSome_find?_iff {p : Pattern} {n : Node} (node : p.node = .seq .lineStart n)
    (captures : p.captures = 0)
    (plain : p.ignoreCase = false ∧ p.multiline = false ∧ p.dotAll = false ∧ p.sticky = false)
    (reads : Reads u (n.run (.plain u) some) L) : (p.find? u 0).isSome ↔ L u := by
  have started (start : Nat) : (p.matchAt u.toArray start).isSome ↔
      start = 0 ∧ (n.run (.plain u) some ⟨start, []⟩).isSome := by
    simp only [matchAt, node, captures, plain.1, plain.2.1, plain.2.2.1, Node.run, Subject.startsLine,
      Bool.false_and, Bool.or_false, beq_iff_eq, List.replicate_zero, Option.isSome_map]
    split
    next first => exact ⟨fun some' => ⟨first, some'⟩, And.right⟩
    next other => exact iff_of_false Bool.false_ne_true fun both => other both.1
  have behind (start count : Nat) : p.search u.toArray (start + 1) count = none := by
    induction count generalizing start with
    | zero => rfl
    | succ count ih =>
      have missed : p.matchAt u.toArray (start + 1) = none := by
        rw [← Option.not_isSome_iff_eq_none, started]
        exact fun both => absurd both.1 (Nat.succ_ne_zero _)
      rw [search, missed, Option.none_or, ih]
  have found : (p.find? u 0).isSome ↔ (p.matchAt u.toArray 0).isSome := by
    simp only [find?, plain.2.2.2, Nat.not_lt_zero, if_false, Bool.false_eq_true, Nat.sub_zero, search,
      behind, Option.or_none]
  rw [found, started, reads 0 (Nat.zero_le _), List.drop_zero]
  exact and_iff_right rfl

end ProxyAutoConfig.Script.Regex
