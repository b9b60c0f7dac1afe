import Mathlib.Data.List.Forall2
import Mathlib.Data.List.Infix
import ProxyAutoConfig.Native.Function

/-!
# What a glob matches

`Matches` says what a glob stands for, mark by mark. It leaves open which characters a star and a
question mark may stand for: shells know no limit there, and what scripts are given excludes the
line feed.

**The law** (`holds_iff`): the columns that are worked out from the end of a glob tell at every
place of a value whether the rest of the glob matches what is left of it. So a glob holds exactly of
the values that it matches, where its marks stand for anything but line feeds; and a glob with a
star in it holds of a value exactly when what stands on either side of the star holds of the value's
two ends, and no line feed lies between them.
-/

namespace ProxyAutoConfig.Glob

/-- **What a glob stands for**: a star for any run of free characters, a question mark for one free
character, and every other character for itself. -/
inductive Matches (free : Char → Prop) : List Char → List Char → Prop
  | nil : Matches free [] []
  | star (run : List Char) {glob value : List Char} : (∀ c ∈ run, free c) → Matches free glob value →
      Matches free ('*' :: glob) (run ++ value)
  | any {c : Char} {glob value : List Char} : free c → Matches free glob value →
      Matches free ('?' :: glob) (c :: value)
  | char {c : Char} {glob value : List Char} : c ≠ '*' → c ≠ '?' → Matches free glob value →
      Matches free (c :: glob) (c :: value)

variable {free : Char → Prop} {glob value : List Char} {mark c : Char}

/-! ## One mark -/

/-- A glob that has come to its end matches a value that has. -/
theorem matches_nil_iff : Matches free [] value ↔ value = [] := by
  constructor
  · intro whole
    cases whole
    rfl
  · rintro rfl
    exact .nil

/-- A star stands for nothing, or for one character more. -/
theorem matches_star_cons_iff :
    Matches free ('*' :: glob) (c :: value) ↔
      Matches free glob (c :: value) ∨ (free c ∧ Matches free ('*' :: glob) value) := by
  constructor
  · intro whole
    generalize shape : c :: value = cs at whole
    cases whole with
    | star run runs behind =>
      cases run with
      | nil => exact .inl behind
      | cons d run =>
        obtain ⟨rfl, rfl⟩ := List.cons.inj shape
        obtain ⟨here, further⟩ := List.forall_mem_cons.mp runs
        exact .inr ⟨here, .star run further behind⟩
    | char other => exact absurd rfl other
  · rintro (behind | ⟨here, further⟩)
    · exact .star [] (List.forall_mem_nil _) behind
    · cases further with
      | star run runs behind =>
        exact .star (c :: run) (List.forall_mem_cons.mpr ⟨here, runs⟩) behind
      | char other => exact absurd rfl other

/-- Of a value that has come to its end a star stands for nothing. -/
theorem matches_star_nil_iff : Matches free ('*' :: glob) [] ↔ Matches free glob [] := by
  constructor
  · intro whole
    generalize shape : [] = cs at whole
    cases whole with
    | star run _ behind =>
      obtain ⟨rfl, rfl⟩ := List.append_eq_nil_iff.mp shape.symm
      exact behind
    | char other => exact absurd rfl other
  · exact .star [] (List.forall_mem_nil _)

/-- Any other mark stands for one character: a question mark for a free one. -/
theorem matches_cons_iff (noStar : mark ≠ '*') :
    Matches free (mark :: glob) value ↔
      ∃ c rest, value = c :: rest ∧ (if mark = '?' then free c else c = mark) ∧
        Matches free glob rest := by
  constructor
  · intro whole
    cases whole with
    | star => exact absurd rfl noStar
    | any here behind => exact ⟨_, _, rfl, by rwa [if_pos rfl], behind⟩
    | char _ noQuestion behind => exact ⟨_, _, rfl, by rw [if_neg noQuestion], behind⟩
  · rintro ⟨c, rest, rfl, here, behind⟩
    by_cases question : mark = '?'
    · rw [if_pos question] at here
      rw [question]
      exact .any here behind
    · rw [if_neg question] at here
      rw [here]
      exact .char noStar question behind

/-! ## Columns -/

/-- **A column tells a property of every end of a value**, from the whole value to nothing. -/
def Tells (P : List Char → Prop) (column : List Bool) (value : List Char) : Prop :=
  List.Forall₂ (fun told rest => told = true ↔ P rest) column value.tails

variable {P : List Char → Prop} {here : Bool} {after : List Bool}

theorem tells_nil_iff : Tells P after [] ↔ ∃ told, after = [told] ∧ (told = true ↔ P []) := by
  simp only [Tells, List.tails, List.forall₂_cons_right_iff, List.forall₂_nil_right_iff]
  constructor
  · rintro ⟨told, _, tells, rfl, rfl⟩
    exact ⟨told, rfl, tells⟩
  · rintro ⟨told, rfl, tells⟩
    exact ⟨told, [], tells, rfl, rfl⟩

theorem tells_cons_iff :
    Tells P (here :: after) (c :: value) ↔
      (here = true ↔ P (c :: value)) ∧ Tells P after value := by
  rw [Tells, List.tails, List.forall₂_cons, ← Tells]

/-- What a column tells of the whole value stands in front. -/
theorem headD_of_tells (tells : Tells P after value) : after.headD false = true ↔ P value := by
  cases value with
  | nil =>
    obtain ⟨told, rfl, whole⟩ := tells_nil_iff.mp tells
    exact whole
  | cons c value =>
    cases after with
    | nil => cases tells
    | cons here after => exact (tells_cons_iff.mp tells).1

/-- The empty glob matches at the end alone. -/
theorem tells_end (value : List Char) :
    Tells (Matches free []) (List.replicate value.length false ++ [true]) value := by
  induction value with
  | nil => exact tells_nil_iff.mpr ⟨true, rfl, by simp only [matches_nil_iff]⟩
  | cons c value ih =>
    refine tells_cons_iff.mpr ⟨?_, ih⟩
    simp only [matches_nil_iff, Bool.false_eq_true, reduceCtorEq]

/-- A character other than the line feed is free. -/
theorem isFree_iff : isFree c = true ↔ c ≠ '\n' :=
  bne_iff_ne

/-- At the end of a value a star leaves its place to the rest of the glob. -/
theorem column_nil : column mark [] after = if mark = '*' then after else [false] := by
  unfold column
  rfl

/-- **One mark more**: the column behind a mark gives the column in front of it. -/
theorem tells_column (tells : Tells (Matches (· ≠ '\n') glob) after value) :
    Tells (Matches (· ≠ '\n') (mark :: glob)) (column mark value after) value := by
  induction value generalizing after with
  | nil =>
    obtain ⟨told, rfl, whole⟩ := tells_nil_iff.mp tells
    rw [column_nil]
    by_cases star : mark = '*'
    · rw [if_pos star, star]
      exact tells_nil_iff.mpr ⟨told, rfl, whole.trans matches_star_nil_iff.symm⟩
    · rw [if_neg star]
      refine tells_nil_iff.mpr ⟨false, rfl, ?_⟩
      simp only [matches_cons_iff star, Bool.false_eq_true, reduceCtorEq, false_and, exists_false]
  | cons c value ih =>
    cases after with
    | nil => cases tells
    | cons here after =>
      obtain ⟨first, behind⟩ := tells_cons_iff.mp tells
      have further := headD_of_tells (ih behind)
      have next := headD_of_tells behind
      by_cases star : mark = '*'
      · rw [column, if_pos star]
        refine tells_cons_iff.mpr ⟨?_, ih behind⟩
        rw [Bool.or_eq_true, Bool.and_eq_true, first, isFree_iff, further, star,
          matches_star_cons_iff]
      · have step : Matches (· ≠ '\n') (mark :: glob) (c :: value) ↔
            (if mark = '?' then c ≠ '\n' else c = mark) ∧ Matches (· ≠ '\n') glob value := by
          rw [matches_cons_iff star]
          constructor
          · rintro ⟨_, _, same, rest⟩
            obtain ⟨rfl, rfl⟩ := List.cons.inj same
            exact rest
          · exact fun rest => ⟨c, value, rfl, rest⟩
        rw [column, if_neg star]
        by_cases question : mark = '?'
        · rw [if_pos question] at step ⊢
          refine tells_cons_iff.mpr ⟨?_, ih behind⟩
          rw [Bool.and_eq_true, isFree_iff, next, step]
        · rw [if_neg question] at step ⊢
          refine tells_cons_iff.mpr ⟨?_, ih behind⟩
          rw [Bool.and_eq_true, beq_iff_eq, next, step]

/-- **The columns tell what a glob matches**, by induction on the glob from its end. -/
theorem tells_table (glob value : List Char) :
    Tells (Matches (· ≠ '\n') glob) (table value glob) value := by
  induction glob with
  | nil => exact tells_end value
  | cons mark glob ih => exact tells_column ih

/-- **A glob holds of the values that it matches**, where its marks stand for no line feed. -/
theorem holds_iff : holds glob value = true ↔ Matches (· ≠ '\n') glob value :=
  headD_of_tells (tells_table glob value)

/-! ## Globs side by side -/

/-- The more is free, the more is matched. -/
theorem Matches.mono {free' : Char → Prop} (whole : Matches free glob value)
    (weaker : ∀ c ∈ value, free c → free' c) : Matches free' glob value := by
  induction whole with
  | nil => exact .nil
  | star run runs _ ih =>
    rw [List.forall_mem_append] at weaker
    exact .star run (fun c mem => weaker.1 c mem (runs c mem)) (ih weaker.2)
  | any here _ ih =>
    rw [List.forall_mem_cons] at weaker
    exact .any (weaker.1 here) (ih weaker.2)
  | char noStar noQuestion _ ih =>
    rw [List.forall_mem_cons] at weaker
    exact .char noStar noQuestion (ih weaker.2)

/-- What is free matters for the characters of the value alone. -/
theorem matches_congr {free' : Char → Prop} (same : ∀ c ∈ value, free c ↔ free' c) :
    Matches free glob value ↔ Matches free' glob value :=
  ⟨fun whole => whole.mono fun c mem => (same c mem).mp,
    fun whole => whole.mono fun c mem => (same c mem).mpr⟩

/-- **One glob behind another matches one value behind another.** -/
theorem matches_append_iff {front back : List Char} :
    Matches free (front ++ back) value ↔
      ∃ a b, value = a ++ b ∧ Matches free front a ∧ Matches free back b := by
  constructor
  · intro whole
    induction front generalizing value with
    | nil => exact ⟨[], value, rfl, .nil, whole⟩
    | cons mark front ih =>
      rw [List.cons_append] at whole
      cases whole with
      | star run runs behind =>
        obtain ⟨a, b, rfl, here, there⟩ := ih behind
        exact ⟨run ++ a, b, (List.append_assoc run a b).symm, .star run runs here, there⟩
      | @any c _ rest free behind =>
        obtain ⟨a, b, rfl, here, there⟩ := ih behind
        exact ⟨c :: a, b, rfl, .any free here, there⟩
      | char noStar noQuestion behind =>
        obtain ⟨a, b, rfl, here, there⟩ := ih behind
        exact ⟨mark :: a, b, rfl, .char noStar noQuestion here, there⟩
  · rintro ⟨a, b, rfl, here, there⟩
    induction here with
    | nil => exact there
    | star run runs _ ih =>
      rw [List.append_assoc]
      exact .star run runs ih
    | any free _ ih => exact .any free ih
    | char noStar noQuestion _ ih => exact .char noStar noQuestion ih

/-- A star in front lets a run of free characters pass. -/
theorem matches_star_iff :
    Matches free ('*' :: glob) value ↔
      ∃ run rest, value = run ++ rest ∧ (∀ c ∈ run, free c) ∧ Matches free glob rest := by
  constructor
  · intro whole
    cases whole with
    | star run runs behind => exact ⟨_, _, rfl, runs, behind⟩
    | char other => exact absurd rfl other
  · rintro ⟨run, rest, rfl, runs, behind⟩
    exact .star run runs behind

end ProxyAutoConfig.Glob

namespace ProxyAutoConfig.HostFunction

open ProxyAutoConfig.Glob

/-- **A script's glob matches as a shell's does, but for line feeds.** It holds of exactly those
values that it matches as a whole, with stars for runs and question marks for single characters
other than the line feed; for a value without a line feed this is what a shell's glob does. And
around a star it falls into two globs: it holds of a value exactly when the one in front holds of
the value's beginning and the one behind of its end, with no line feed in between. -/
theorem shExpMatch_iff (value glob : String) :
    (shExpMatch value glob = true ↔ Matches (· ≠ '\n') glob.toList value.toList) ∧
    ('\n' ∉ value.toList →
      (shExpMatch value glob = true ↔ Matches (fun _ => True) glob.toList value.toList)) ∧
    ∀ front back : String, shExpMatch value (front ++ "*" ++ back) = true ↔
      ∃ first run last : String, value = first ++ run ++ last ∧ '\n' ∉ run.toList ∧
        shExpMatch first front = true ∧ shExpMatch last back = true := by
  refine ⟨holds_iff, fun plain => ?_, fun front back => ?_⟩
  · have free : ∀ c ∈ value.toList, c ≠ '\n' ↔ True := fun c mem =>
      iff_true_intro fun feed => plain (feed ▸ mem)
    exact holds_iff.trans (matches_congr free)
  · have cut : (front ++ "*" ++ back).toList = front.toList ++ '*' :: back.toList := by
      simp only [String.toList_append, List.append_assoc]
      rfl
    have free : ∀ run : List Char, (∀ c ∈ run, c ≠ '\n') ↔ '\n' ∉ run := fun run =>
      ⟨fun each mem => each _ mem rfl, fun absent c mem feed => absent (feed ▸ mem)⟩
    simp only [shExpMatch, holds_iff, cut, matches_append_iff, matches_star_iff, free]
    constructor
    · rintro ⟨a, _, whole, here, run, b, rfl, runs, there⟩
      refine ⟨String.ofList a, String.ofList run, String.ofList b, ?_, ?_, ?_, ?_⟩
      · rw [← String.toList_inj]
        simp only [String.toList_append, String.toList_ofList, List.append_assoc]
        exact whole
      · rwa [String.toList_ofList]
      · rwa [String.toList_ofList]
      · rwa [String.toList_ofList]
    · rintro ⟨first, run, last, rfl, runs, here, there⟩
      refine ⟨first.toList, run.toList ++ last.toList, ?_, here, run.toList, last.toList, rfl, runs,
        there⟩
      simp only [String.toList_append, List.append_assoc]

/-- So the signs that patterns of other kinds give a meaning to stand for themselves. -/
theorem shExpMatch_iff_signs :
    '\n' ∉ "a.(b)$".toList ∧ shExpMatch "a.(b)$" "a.(*?$" = true ∧
      Matches (fun _ => True) "a.(*?$".toList "a.(b)$".toList := by
  have plain : '\n' ∉ "a.(b)$".toList := by decide
  have holds : shExpMatch "a.(b)$" "a.(*?$" = true := by decide
  exact ⟨plain, holds, ((shExpMatch_iff "a.(b)$" "a.(*?$").2.1 plain).mp holds⟩

/-- **A star does not pass over a line feed**, which a shell's star does. -/
theorem shExpMatch_misses_line_feed :
    ¬ ∀ value glob : String,
      shExpMatch value glob = true ↔ Matches (fun _ => True) glob.toList value.toList := by
  intro all
  have run : Matches (fun _ => True) "a*b".toList "a\nb".toList :=
    .char (by decide) (by decide) (.star ['\n'] (fun _ _ => trivial)
      (.char (by decide) (by decide) .nil))
  have missed : shExpMatch "a\nb" "a*b" = false := by decide
  rw [(all "a\nb" "a*b").mpr run] at missed
  cases missed

end ProxyAutoConfig.HostFunction
