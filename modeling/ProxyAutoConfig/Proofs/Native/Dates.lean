import Mathlib.Data.List.Nodup
import Mathlib.Data.List.Perm.Subperm
import Mathlib.Data.Prod.Lex
import ProxyAutoConfig.Native.Range
import ProxyAutoConfig.Proofs.Native.Calendar

/-!
# Ranges of dates

A range of dates has two halves that name the same kinds of parts, each kind once (`Halves`). What a half
says does not depend on the order in which it says it: sorted, it is its year, its month and its day, as far
as it has them (`ordered_eq`), and its place among the others of its kinds is that of its `key`, a year
before a month and a month before a day.

**The law** (`holdsDate_halves`): a range holds what lies between the keys of its halves, and goes on past
the end where the last is less than the first. Of whole dates this is the order of the days
(`key_parts_le_iff`).
-/

namespace ProxyAutoConfig.Range

open ProxyAutoConfig.Calendar

/-! ## Halves -/

namespace DatePart

/-- A part of a date, of the same kind as another. -/
def of (today : Date) : DatePart → DatePart
  | day _ => day today.day
  | month _ => month today.month
  | year _ => year today.year

@[simp]
theorem rank_of (today : Date) (p : DatePart) : (p.of today).rank = p.rank := by
  cases p <;> rfl

@[simp]
theorem value_of (today : Date) (p : DatePart) : (p.of today).value = p.ofDate today := by
  cases p <;> rfl

end DatePart

open DatePart

/-- The kinds of parts, the most significant first. -/
def allKinds : List Nat :=
  [0, 1, 2]

theorem rank_mem (p : DatePart) : p.rank ∈ allKinds := by
  cases p <;> simp [rank, allKinds]

/-- **Half of a range**: parts, no two of a kind. -/
structure IsHalf (half : List DatePart) : Prop where
  nonempty : half ≠ []
  distinct : (half.map rank).Nodup

/-- **The halves of a range** name the same kinds. -/
structure Halves (A B : List DatePart) : Prop where
  first : IsHalf A
  last : IsHalf B
  kinds : ∀ k, k ∈ A.map rank ↔ k ∈ B.map rank

/-- The part of a kind. -/
def part? (half : List DatePart) (k : Nat) : Option DatePart :=
  half.find? (·.rank == k)

/-- The number of the part of a kind. -/
def field? (half : List DatePart) (k : Nat) : Option Int :=
  (part? half k).map value

/-- **The place of a half** among others of its kinds: by year, by month and by day. A kind that none of
them names tells none of them apart. -/
def key (half : List DatePart) : Int ×ₗ Int ×ₗ Int :=
  toLex ((field? half 0).getD 0, toLex ((field? half 1).getD 0, (field? half 2).getD 0))

/-- The place of a date, as far as a half names its parts. -/
def place (today : Date) (half : List DatePart) : Int ×ₗ Int ×ₗ Int :=
  key (half.map (of today))

variable {A B : List DatePart}

theorem IsHalf.perm (half : IsHalf A) (same : A.Perm B) : IsHalf B where
  nonempty none' := half.nonempty (none' ▸ same).eq_nil
  distinct := (same.map rank).nodup_iff.mp half.distinct

theorem Halves.perm (halves : Halves A B) {A' B' : List DatePart} (ha : A.Perm A') (hb : B.Perm B') :
    Halves A' B' where
  first := halves.first.perm ha
  last := halves.last.perm hb
  kinds k := by
    rw [← (ha.map rank).mem_iff, ← (hb.map rank).mem_iff]
    exact halves.kinds k

/-- **Of a kind** a half has one part at most. -/
theorem part?_eq_some_iff (half : IsHalf A) {k : Nat} {p : DatePart} :
    part? A k = some p ↔ p ∈ A ∧ p.rank = k := by
  have of_found {k : Nat} {p : DatePart} (found : part? A k = some p) : p.rank = k :=
    beq_iff_eq.mp (List.find?_some (p := fun q : DatePart => q.rank == k) found)
  constructor
  · intro found
    exact ⟨List.mem_of_find?_eq_some found, of_found found⟩
  · rintro ⟨mem, rfl⟩
    have found : (part? A p.rank).isSome := List.find?_isSome.mpr ⟨p, mem, beq_self_eq_true _⟩
    obtain ⟨q, found⟩ := Option.isSome_iff_exists.mp found
    rw [found, List.inj_on_of_nodup_map half.distinct (List.mem_of_find?_eq_some found) mem
      (of_found found)]

theorem part?_isSome (A : List DatePart) (k : Nat) : (part? A k).isSome ↔ k ∈ A.map rank := by
  simp only [part?, List.find?_isSome, beq_iff_eq, List.mem_map]

/-- The parts of a date, of the kinds of a half. -/
theorem part?_of (A : List DatePart) (today : Date) (k : Nat) :
    part? (A.map (of today)) k = (part? A k).map (of today) := by
  rw [part?, List.find?_map]
  simp only [Function.comp_def, rank_of]
  rfl

/-- The parts of a half in another order. -/
theorem part?_perm (half : IsHalf A) (same : A.Perm B) : part? A = part? B := by
  funext k
  ext p
  rw [part?_eq_some_iff half, part?_eq_some_iff (half.perm same), same.mem_iff]

/-! ## Order -/

/-- The kinds of sorted parts ascend. -/
theorem pairwise_ordered (parts : List DatePart) :
    (ordered parts).Pairwise fun p q => p.rank ≤ q.rank := by
  refine (List.pairwise_mergeSort ?_ ?_ parts).imp of_decide_eq_true
  · intro p q r le le'
    exact decide_eq_true (Nat.le_trans (of_decide_eq_true le) (of_decide_eq_true le'))
  · intro p q
    exact (Bool.or_eq_true _ _).mpr ((Nat.le_total p.rank q.rank).imp decide_eq_true decide_eq_true)

/-- The kinds of the parts of a half, kind by kind, ascend too, and none comes twice. -/
theorem pairwise_filterMap_part? (half : IsHalf A) :
    (allKinds.filterMap (part? A)).Pairwise fun p q => p.rank < q.rank := by
  have ascending : allKinds.Pairwise (· < ·) := by decide
  refine List.pairwise_filterMap.mpr (ascending.imp ?_)
  intro k l lt p first q last
  rw [((part?_eq_some_iff half).mp first).2, ((part?_eq_some_iff half).mp last).2]
  exact lt

/-- They are all parts of the half. -/
theorem perm_filterMap_part? (half : IsHalf A) : A.Perm (allKinds.filterMap (part? A)) := by
  have distinct : (allKinds.filterMap (part? A)).Nodup :=
    (pairwise_filterMap_part? half).imp fun lt eq => absurd (eq ▸ lt) (Nat.lt_irrefl _)
  refine (List.perm_ext_iff_of_nodup (List.Nodup.of_map rank half.distinct) distinct).mpr ?_
  intro p
  rw [List.mem_filterMap]
  constructor
  · intro mem
    exact ⟨p.rank, rank_mem p, (part?_eq_some_iff half).mpr ⟨mem, rfl⟩⟩
  · rintro ⟨k, _, found⟩
    exact ((part?_eq_some_iff half).mp found).1

/-- **Sorted, a half is its year, its month and its day**, as far as it has them: no two of its parts are of
a kind, so that there is one way to sort them. -/
theorem ordered_eq (half : IsHalf A) : ordered A = allKinds.filterMap (part? A) := by
  have same := perm_filterMap_part? half
  have perm : (ordered A).Perm A := List.mergeSort_perm A _
  refine (perm.trans same).eq_of_pairwise ?_ (pairwise_ordered A)
    ((pairwise_filterMap_part? half).imp Nat.le_of_lt)
  intro p q mem mem' le ge
  exact List.inj_on_of_nodup_map half.distinct (perm.mem_iff.mp mem) (same.mem_iff.mpr mem')
    (Nat.le_antisymm le ge)

/-- What is said of the parts of a sorted half is said of them kind by kind. -/
theorem map_ordered (half : IsHalf A) {β : Type} (f : DatePart → β) :
    (ordered A).map f = allKinds.filterMap fun k => (part? A k).map f := by
  rw [ordered_eq half, List.map_filterMap]

/-- The kinds of two halves are the same. -/
theorem map_rank_ordered (halves : Halves A B) : (ordered A).map rank = (ordered B).map rank := by
  have rank_part {C : List DatePart} (half : IsHalf C) (k : Nat) :
      (part? C k).map rank = if k ∈ C.map rank then some k else none := by
    have named := part?_isSome C k
    cases found : part? C k with
    | none =>
      rw [found] at named
      exact (if_neg fun mem => Bool.false_ne_true (named.mpr mem)).symm
    | some p =>
      rw [found] at named
      rw [Option.map_some, ((part?_eq_some_iff half).mp found).2, if_pos (named.mp rfl)]
  rw [map_ordered halves.first, map_ordered halves.last]
  congr 1
  funext k
  rw [rank_part halves.first, rank_part halves.last]
  simp only [halves.kinds k]

/-- The numbers of a half. -/
theorem map_value_ordered (half : IsHalf A) : (ordered A).map value = allKinds.filterMap (field? A) :=
  map_ordered half value

/-- The numbers of a date in the places of a half. -/
theorem map_ofDate_ordered (half : IsHalf A) (today : Date) :
    (ordered A).map (ofDate today) = allKinds.filterMap (field? (A.map (of today))) := by
  rw [map_ordered half]
  congr 1
  funext k
  rw [field?, part?_of, Option.map_map]
  congr 1
  funext p
  exact (value_of today p).symm

/-- The numbers of the same kinds are compared kind by kind. -/
theorem lexAtMost_filterMap {f g : Nat → Option Int} (same : ∀ k, (f k).isSome ↔ (g k).isSome)
    (ks : List Nat) :
    lexAtMost (ks.filterMap f) (ks.filterMap g) =
      lexAtMost (ks.map fun k => (f k).getD 0) (ks.map fun k => (g k).getD 0) := by
  induction ks with
  | nil => rfl
  | cons k ks ih =>
    have kind := same k
    cases first : f k with
    | none =>
      cases last : g k with
      | none =>
        rw [List.filterMap_cons_none first, List.filterMap_cons_none last, ih]
        simp only [List.map_cons, first, last, Option.getD_none, lexAtMost, if_true]
      | some b => simp [first, last] at kind
    | some a =>
      cases last : g k with
      | none => simp [first, last] at kind
      | some b =>
        rw [List.filterMap_cons_some first, List.filterMap_cons_some last]
        simp only [List.map_cons, first, last, Option.getD_some, lexAtMost, ih]

/-- Three numbers each. -/
theorem lexAtMost_three (a b c a' b' c' : Int) :
    lexAtMost [a, b, c] [a', b', c'] = true ↔ toLex (a, toLex (b, c)) ≤ toLex (a', toLex (b', c')) := by
  rw [Prod.Lex.toLex_le_toLex, Prod.Lex.toLex_le_toLex]
  simp only [lexAtMost]
  by_cases year : a = a'
  · by_cases month : b = b'
    · by_cases day : c = c'
      · simp [year, month, day]
      · simp [year, month, day]
        omega
    · simp [year, month]
  · simp [year]

/-- **Halves are compared by their keys.** -/
theorem lexAtMost_iff_key (same : ∀ k, (part? A k).isSome ↔ (part? B k).isSome) :
    lexAtMost (allKinds.filterMap (field? A)) (allKinds.filterMap (field? B)) = true ↔ key A ≤ key B := by
  have named (k : Nat) : (field? A k).isSome ↔ (field? B k).isSome := by
    rw [field?, field?, Option.isSome_map, Option.isSome_map]
    exact same k
  rw [lexAtMost_filterMap named]
  exact lexAtMost_three _ _ _ _ _ _

/-! ## Halves of a range -/

/-- **What is asked of two halves** of the same length. -/
theorem holdsDate_append (today : Date) (same : A.length = B.length) (few : A.length ≤ 3) :
    holdsDate today (A ++ B) =
      ((ordered A).map rank == (ordered B).map rank &&
        within lexAtMost ((ordered A).map value) ((ordered B).map value)
          ((ordered A).map (ofDate today))) := by
  have length : (A ++ B).length = 2 * A.length := by
    rw [List.length_append, ← same]
    omega
  have half : (A ++ B).length / 2 = A.length := by omega
  unfold holdsDate
  split
  next p single =>
    rw [single] at length
    have one : 1 = 2 * A.length := length
    omega
  next =>
    rw [if_pos ⟨by omega, by omega⟩, half, List.take_left, List.drop_left]

/-- The halves are of one length, and no longer than there are kinds. -/
theorem Halves.length (halves : Halves A B) : A.length = B.length ∧ A.length ≤ 3 := by
  have le {C D : List Nat} (distinct : C.Nodup) (mem : ∀ k ∈ C, k ∈ D) : C.length ≤ D.length :=
    (List.subperm_of_subset distinct mem).length_le
  have known : ∀ k ∈ A.map rank, k ∈ allKinds := by
    intro k mem
    obtain ⟨p, _, rfl⟩ := List.mem_map.mp mem
    exact rank_mem p
  have there := le halves.first.distinct fun k => (halves.kinds k).mp
  have back := le halves.last.distinct fun k => (halves.kinds k).mpr
  have bound := le halves.first.distinct known
  rw [List.length_map, List.length_map] at there back
  rw [List.length_map] at bound
  exact ⟨Nat.le_antisymm there back, bound⟩

/-- **A range of two halves**: between their keys, or outside of them. -/
theorem holdsDate_halves (today : Date) (halves : Halves A B) :
    holdsDate today (A ++ B) = true ↔
      if key A ≤ key B then key A ≤ place today A ∧ place today A ≤ key B
      else key A ≤ place today A ∨ place today A ≤ key B := by
  have same (k : Nat) : (part? A k).isSome ↔ (part? B k).isSome := by
    rw [part?_isSome, part?_isSome, halves.kinds k]
  have now (k : Nat) : (part? (A.map (of today)) k).isSome ↔ (part? A k).isSome := by
    rw [part?_of, Option.isSome_map]
  have ends := lexAtMost_iff_key same
  have start : _ ↔ key A ≤ place today A := lexAtMost_iff_key fun k => (now k).symm
  have finish : _ ↔ place today A ≤ key B := lexAtMost_iff_key fun k => (now k).trans (same k)
  rw [holdsDate_append today halves.length.1 halves.length.2, map_rank_ordered halves, beq_self_eq_true,
    Bool.true_and, map_value_ordered halves.first, map_value_ordered halves.last,
    map_ofDate_ordered halves.first, within]
  by_cases le : key A ≤ key B
  · rw [if_pos (ends.mpr le), if_pos le, Bool.and_eq_true, start, finish]
  · rw [if_neg fun less => le (ends.mp less), if_neg le, Bool.or_eq_true, start, finish]

/-- **The order of the parts inside a half** changes nothing. -/
theorem holdsDate_perm (today : Date) (halves : Halves A B) {A' B' : List DatePart} (ha : A.Perm A')
    (hb : B.Perm B') : holdsDate today (A' ++ B') = holdsDate today (A ++ B) := by
  have halves' := halves.perm ha hb
  have first : ordered A' = ordered A := by
    rw [ordered_eq halves.first, ordered_eq halves'.first, part?_perm halves.first ha]
  have last : ordered B' = ordered B := by
    rw [ordered_eq halves.last, ordered_eq halves'.last, part?_perm halves.last hb]
  rw [holdsDate_append today halves.length.1 halves.length.2,
    holdsDate_append today halves'.length.1 halves'.length.2, first, last]

/-- One part is a range from itself to itself. -/
theorem holdsDate_one (today : Date) (p : DatePart) : holdsDate today [p] = holdsDate today [p, p] := by
  have both := holdsDate_append (A := [p]) (B := [p]) today rfl (Nat.le_add_left 1 2)
  have sorted : ordered [p] = [p] := List.mergeSort_singleton p
  have one (a b : Int) : lexAtMost [a] [b] = decide (a ≤ b) := by
    by_cases eq : a = b
    · simp [lexAtMost, eq]
    · simp only [lexAtMost, if_neg eq, decide_eq_decide]
      omega
  have single : holdsDate today [p] = (p.ofDate today == p.value) := rfl
  rw [sorted] at both
  rw [single, show [p, p] = [p] ++ [p] from rfl, both, Bool.eq_iff_iff, beq_iff_eq]
  simp only [within, List.map_cons, List.map_nil, one, Int.le_refl, decide_true, if_true, beq_self_eq_true,
    Bool.true_and, Bool.and_eq_true, decide_eq_true_eq]
  omega

/-! ## Whole dates -/

/-- All parts of a date. -/
def parts (d : Date) : List DatePart :=
  [day d.day, month d.month, year d.year]

theorem isHalf_parts (d : Date) : IsHalf (parts d) :=
  ⟨List.cons_ne_nil _ _, (by decide : [2, 1, 0].Nodup)⟩

theorem halves_parts (d e : Date) : Halves (parts d) (parts e) :=
  ⟨isHalf_parts d, isHalf_parts e, fun _ => Iff.rfl⟩

theorem key_parts (d : Date) : key (parts d) = toLex (d.year, toLex ((d.month : Int), (d.day : Int))) :=
  rfl

/-- **Whole dates are in the order of their days.** -/
theorem key_parts_le_iff {d e : Date} (hd : d.Valid) (he : e.Valid) :
    key (parts d) ≤ key (parts e) ↔ d.number ≤ e.number := by
  have less {d e : Date} (hd : d.Valid) (he : e.Valid) (lt : key (parts d) < key (parts e)) :
      d.number < e.number := by
    refine Date.number_lt_of_lt hd he ?_
    rw [key_parts, key_parts, Prod.Lex.toLex_lt_toLex, Prod.Lex.toLex_lt_toLex] at lt
    simpa only [Int.ofNat_lt, Int.ofNat_inj] using lt
  constructor
  · intro le
    rcases le.lt_or_eq with lt | eq
    · exact Int.le_of_lt (less hd he lt)
    · obtain ⟨year, rest⟩ := Prod.mk.inj (toLex.injective eq)
      obtain ⟨month, day⟩ := Prod.mk.inj (toLex.injective rest)
      have month : d.month = e.month := Int.ofNat_inj.mp month
      have day : d.day = e.day := Int.ofNat_inj.mp day
      have year : d.year = e.year := year
      rw [Date.number, Date.number, year, month, day]
  · intro le
    exact not_lt.mp fun lt => absurd le (Int.not_le.mpr (less he hd lt))

/-- **Ranges of dates are intervals.** Two halves that name the same kinds hold the dates between them, by
year, month and day of what they name; where the second is less than the first, they hold what is not less
than the first and what is not greater than the second. The order of the parts inside a half changes
nothing, and one part is a range from itself to itself. Two whole dates, the first no later than the last,
hold the days from the one to the other; every day has a date, with its number. -/
theorem holdsDate_interval (today : Date) :
    (∀ A B, Halves A B →
      (key A ≤ key B → (holdsDate today (A ++ B) = true ↔ key A ≤ place today A ∧ place today A ≤ key B)) ∧
      (key B < key A → (holdsDate today (A ++ B) = true ↔ key A ≤ place today A ∨ place today A ≤ key B)) ∧
      ∀ A' B', A.Perm A' → B.Perm B' → holdsDate today (A' ++ B') = holdsDate today (A ++ B)) ∧
    (∀ p, holdsDate today [p] = holdsDate today [p, p]) ∧
    (∀ first last : Date, first.Valid → last.Valid → today.Valid → first.number ≤ last.number →
      ∀ A B, (parts first).Perm A → (parts last).Perm B →
      (holdsDate today (A ++ B) = true ↔ first.number ≤ today.number ∧ today.number ≤ last.number)) ∧
    ∀ n, (dateOfDay n).Valid ∧ (dateOfDay n).number = n := by
  refine ⟨?_, holdsDate_one today, ?_, valid_dateOfDay⟩
  · intro A B halves
    refine ⟨?_, ?_, fun A' B' => holdsDate_perm today halves⟩
    · intro le
      rw [holdsDate_halves today halves, if_pos le]
    · intro lt
      rw [holdsDate_halves today halves, if_neg (not_le.mpr lt)]
  · intro first last valid valid' now le A B ha hb
    have whole : place today (parts first) = key (parts today) := rfl
    rw [holdsDate_perm today (halves_parts first last) ha hb,
      holdsDate_halves today (halves_parts first last), if_pos ((key_parts_le_iff valid valid').mpr le), whole,
      key_parts_le_iff valid now, key_parts_le_iff now valid']

/-- So the second of January lies between Christmas Eve and Epiphany, whichever of the day and the month
comes first, and not between Epiphany and Christmas Eve; and with the years it lies between them too. -/
theorem holdsDate_interval_turn :
    Halves [day 24, month 11] [month 0, day 6] ∧ key [month 0, day 6] < key [day 24, month 11] ∧
    holdsDate ⟨2027, 0, 2, 6⟩ [month 0, day 6, day 24, month 11] = false ∧
    holdsDate ⟨2027, 0, 2, 6⟩ [day 24, month 11, month 0, day 6] = true ∧
    holdsDate ⟨2027, 0, 2, 6⟩ [month 11, day 24, month 0, day 6] = true ∧
    holdsDate ⟨2027, 0, 2, 6⟩ [month 0] = holdsDate ⟨2027, 0, 2, 6⟩ [month 0, month 0] ∧
    holdsDate ⟨2027, 0, 2, 6⟩ [year 2026, day 24, month 11, day 6, month 0, year 2027] = true := by
  have kinds : ∀ k, k ∈ [2, 1] ↔ k ∈ [1, 2] := fun k => (List.Perm.swap 1 2 []).mem_iff
  have halves : Halves [day 24, month 11] [month 0, day 6] :=
    ⟨⟨List.cons_ne_nil _ _, (by decide : [2, 1].Nodup)⟩, ⟨List.cons_ne_nil _ _, (by decide : [1, 2].Nodup)⟩,
      kinds⟩
  have turned : key [month 0, day 6] < key [day 24, month 11] := by decide
  have valid : Date.Valid ⟨2026, 11, 24, 4⟩ := ⟨by decide, by decide⟩
  have valid' : Date.Valid ⟨2027, 0, 6, 3⟩ := ⟨by decide, by decide⟩
  have now : Date.Valid ⟨2027, 0, 2, 6⟩ := ⟨by decide, by decide⟩
  obtain ⟨interval, one, whole, _⟩ := holdsDate_interval ⟨2027, 0, 2, 6⟩
  obtain ⟨_, outside, perm⟩ := interval _ _ halves
  have held := (outside turned).mpr (.inr (by decide))
  obtain ⟨between, _, _⟩ :=
    interval _ _ ⟨halves.last, halves.first, fun k => (halves.kinds k).symm⟩
  have early := Bool.eq_false_iff.mpr (mt (between (le_of_lt turned)).mp (by decide))
  exact ⟨halves, turned, early, held, (perm _ _ (.swap _ _ []) (.refl _)).trans held, one (month 0),
    (whole _ _ valid valid' now (by decide) [year 2026, day 24, month 11] [day 6, month 0, year 2027]
      (by decide) (.refl _)).mpr (by decide)⟩

end ProxyAutoConfig.Range
