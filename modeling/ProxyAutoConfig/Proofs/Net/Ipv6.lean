import ProxyAutoConfig.Net.Ipv6
import ProxyAutoConfig.Proofs.Text.Cut
import ProxyAutoConfig.Proofs.Text.Digits

/-!
# IPv6 addresses, written and read

An address in groups is read back as the address (`parse?_text`). Two colons in a row stand in its
text where zeros have been left out and nowhere else, since every group has a digit; the zeros that
have been left out are as many as the groups on the two sides leave room for.
-/

namespace ProxyAutoConfig.Net.Ipv6

open ProxyAutoConfig.Text

/-! ## Groups -/

/-- The groups of an address make it up. -/
theorem ofGroups_groups (bits : Ipv6) : ofGroups (groups bits) = bits := by
  have small := bits.isLt
  apply BitVec.eq_of_toNat_eq
  rw [ofGroups, BitVec.toNat_ofNat]
  simp only [groups, List.range, List.range.loop, List.map_cons, List.map_nil, List.foldl_cons,
    List.foldl_nil, Nat.pow_eq]
  omega

/-- There are eight of them. -/
theorem length_groups (bits : Ipv6) : (groups bits).length = 8 := by
  rw [groups, List.length_map, List.length_range]

/-- A group has sixteen bits. -/
theorem lt_of_mem_groups {bits : Ipv6} {g : Nat} (mem : g ∈ groups bits) : g < 0x10000 := by
  obtain ⟨i, _, rfl⟩ := List.mem_map.mp mem
  exact Nat.mod_lt _ (by decide)

/-- No colon stands in the digits of a group. -/
theorem colon_not_mem_groupText (g : Nat) : ':' ∉ groupText g := by
  intro mem
  obtain ⟨d, hd, same⟩ := exists_digitChar_of_mem (by decide) mem
  exact (by decide : ∀ d < 16, Nat.digitChar d ≠ ':') d hd same.symm

/-- A group is read from its digits. -/
theorem group?_groupText {g : Nat} (small : g < 0x10000) : group? (groupText g) = some g := by
  have short : ¬ 4 < (groupText g).length :=
    Nat.not_lt.mpr ((Nat.length_toDigits_le_iff (by decide) (by decide)).mpr small)
  have nonempty : (groupText g).isEmpty = false := List.isEmpty_eq_false_iff.mpr Nat.toDigits_ne_nil
  rw [group?, if_neg short, number?, nonempty, if_neg Bool.false_ne_true, groupText,
    numberFrom?_toDigits (by decide) (by decide)]

variable {gs : List Nat}

/-- Groups are read one after the other. -/
theorem readGroups_map (dotted : Bool) (small : ∀ g ∈ gs, g < 0x10000) :
    readGroups dotted (gs.map groupText) = some gs := by
  induction gs with
  | nil => rfl
  | cons g gs ih =>
    obtain ⟨here, behind⟩ := List.forall_mem_cons.mp small
    cases gs with
    | nil => simp only [List.map_cons, List.map_nil, readGroups, group?_groupText here]
    | cons next rest =>
      rw [List.map_cons, readGroups, group?_groupText here, ih behind]
      nofun

/-- Groups begin with a digit. -/
theorem exists_cons_groupsText (g : Nat) (gs : List Nat) :
    ∃ c cs, groupsText (g :: gs) = c :: cs ∧ c ≠ ':' := by
  have given : groupText g ≠ [] := Nat.toDigits_ne_nil
  obtain ⟨c, cs, digits⟩ := List.exists_cons_of_ne_nil given
  have digit : c ≠ ':' := fun colon =>
    colon_not_mem_groupText g (by rw [digits, colon]; exact List.mem_cons_self)
  cases gs with
  | nil => exact ⟨c, cs, by rw [groupsText, List.map_cons, digits]; exact List.append_nil _, digit⟩
  | cons next rest =>
    refine ⟨c, cs ++ ':' :: groupsText (next :: rest), ?_, digit⟩
    simp only [groupsText, List.map_cons, List.intercalate_cons_cons, digits, List.cons_append,
      List.append_assoc, List.nil_append]

/-- **The groups on one side of two colons are read from their text.** -/
theorem readSide_groupsText (dotted : Bool) (small : ∀ g ∈ gs, g < 0x10000) :
    readSide dotted (groupsText gs) = some gs := by
  cases gs with
  | nil => rfl
  | cons g rest =>
    obtain ⟨c, cs, text, -⟩ := exists_cons_groupsText g rest
    have colonless : ∀ part ∈ (g :: rest).map groupText, ':' ∉ part := by
      intro part mem
      obtain ⟨n, _, rfl⟩ := List.mem_map.mp mem
      exact colon_not_mem_groupText n
    have nonempty : (groupsText (g :: rest)).isEmpty = false := by rw [text]; rfl
    rw [readSide, nonempty, if_neg Bool.false_ne_true, groupsText,
      List.splitOn_intercalate ':' colonless (List.cons_ne_nil _ _), readGroups_map dotted small]

/-! ## Two colons -/

/-- Two colons begin with none of the digits in front of them. -/
theorem cut?_append_of_colonless {front : List Char} (colonless : ':' ∉ front) (back : List Char) :
    cut? [':', ':'] (front ++ back) =
      (cut? [':', ':'] back).map fun sides => (front ++ sides.1, sides.2) := by
  induction front with
  | nil => exact Option.map_id'.symm
  | cons c front ih =>
    obtain ⟨hc, behind⟩ := List.ne_and_not_mem_of_not_mem_cons colonless
    have further : [':', ':'].isPrefixOf (c :: (front ++ back)) = false := by
      rw [List.isPrefixOf_cons_cons, beq_eq_false_iff_ne.mpr hc, Bool.false_and]
    rw [List.cons_append, cut?, further, if_neg Bool.false_ne_true, ih behind, Option.map_map]
    rfl

/-- **No two colons stand in groups.** -/
theorem cut?_groupsText (gs : List Nat) (back : List Char) :
    cut? [':', ':'] (groupsText gs ++ back) =
      (cut? [':', ':'] back).map fun sides => (groupsText gs ++ sides.1, sides.2) := by
  induction gs with
  | nil => exact Option.map_id'.symm
  | cons g gs ih =>
    cases gs with
    | nil =>
      have single : groupsText [g] = groupText g := List.append_nil _
      rw [single, cut?_append_of_colonless (colon_not_mem_groupText g)]
    | cons next rest =>
      obtain ⟨c, cs, text, digit⟩ := exists_cons_groupsText next rest
      have split : groupsText (g :: next :: rest) =
          groupText g ++ ':' :: groupsText (next :: rest) := by
        simp only [groupsText, List.map_cons, List.intercalate_cons_cons, List.append_assoc,
          List.cons_append, List.nil_append]
      have further :
          [':', ':'].isPrefixOf (':' :: (groupsText (next :: rest) ++ back)) = false := by
        rw [text, List.cons_append, List.isPrefixOf_cons_cons, List.isPrefixOf_cons_cons,
          beq_eq_false_iff_ne.mpr (Ne.symm digit), Bool.false_and, Bool.and_false]
      rw [split, List.append_assoc, cut?_append_of_colonless (colon_not_mem_groupText g),
        List.cons_append, cut?, further, if_neg Bool.false_ne_true, ih, Option.map_map,
        Option.map_map]
      refine congrArg (Option.map · _) (funext fun sides => ?_)
      simp only [Function.comp_apply, List.append_assoc, List.cons_append]

/-! ## The longest run of zeros -/

/-- The zeros in front are a run of zeros. -/
theorem eq_append_zeroRun (gs : List Nat) :
    gs = List.replicate (zeroRun gs) 0 ++ gs.drop (zeroRun gs) := by
  have zeros : gs.takeWhile (· == 0) = List.replicate (zeroRun gs) 0 :=
    List.eq_replicate_iff.mpr
      ⟨rfl, fun g mem => beq_iff_eq.mp (List.all_eq_true.mp List.all_takeWhile g mem)⟩
  have first : gs.take (zeroRun gs) = List.replicate (zeroRun gs) 0 :=
    (List.prefix_iff_eq_take.mp (List.takeWhile_prefix _)).symm.trans zeros
  rw [← first, List.take_append_drop]

/-- **Around the longest run of zeros stand the other groups.** -/
theorem eq_append_longestRun (gs : List Nat) (place : Nat) :
    ∃ before, longestRun place gs = (place + before, (longestRun place gs).2) ∧
      gs = gs.take before ++ List.replicate (longestRun place gs).2 0 ++
        gs.drop (before + (longestRun place gs).2) := by
  induction gs generalizing place with
  | nil => exact ⟨0, rfl, rfl⟩
  | cons g gs ih =>
    rw [longestRun]
    split
    · refine ⟨0, rfl, ?_⟩
      rw [Nat.zero_add, List.take_zero, List.nil_append]
      exact eq_append_zeroRun _
    · obtain ⟨before, found, whole⟩ := ih (place + 1)
      refine ⟨before + 1, found.trans (by rw [Nat.add_right_comm, Nat.add_assoc]), ?_⟩
      rw [List.take_succ_cons, Nat.add_right_comm, List.drop_succ_cons, List.cons_append,
        List.cons_append, ← whole]

/-! ## Whole addresses -/

/-- **An address is read back from its text.** -/
theorem parse?_text (bits : Ipv6) : parse? (text bits) = some bits := by
  have small : ∀ {gs : List Nat}, gs ⊆ groups bits → ∀ g ∈ gs, g < 0x10000 :=
    fun part g mem => lt_of_mem_groups (part mem)
  obtain ⟨before, place, whole⟩ := eq_append_longestRun (groups bits) 0
  rw [Nat.zero_add] at place
  have split : text bits =
      if (longestRun 0 (groups bits)).2 < 2 then groupsText (groups bits)
      else groupsText ((groups bits).take before) ++ [':', ':'] ++
        groupsText ((groups bits).drop (before + (longestRun 0 (groups bits)).2)) := by
    rw [text, place]
  rw [split]
  generalize (longestRun 0 (groups bits)).2 = run at whole ⊢
  by_cases short : run < 2
  · have single := cut?_groupsText (groups bits) []
    rw [List.append_nil] at single
    rw [if_pos short, parse?, single]
    simp only [cut?, List.isEmpty_cons, Bool.false_eq_true, if_false, Option.map_none]
    rw [readSide_groupsText true (small (List.Subset.refl _))]
    simp only [length_groups, if_true, ofGroups_groups]
  · have sides : cut? [':', ':'] (groupsText ((groups bits).take before) ++ [':', ':'] ++
        groupsText ((groups bits).drop (before + run))) =
          some (groupsText ((groups bits).take before),
            groupsText ((groups bits).drop (before + run))) := by
      rw [List.append_assoc, cut?_groupsText]
      simp only [List.cons_append, List.nil_append, cut?, List.isPrefixOf_cons_cons,
        beq_self_eq_true, List.isPrefixOf_nil_left, Bool.and_self, if_true, List.length_cons,
        List.length_nil, List.drop_succ_cons, List.drop_zero, Option.map_some, List.append_nil]
    have counts := congrArg List.length whole
    rw [List.length_append, List.length_append, List.length_replicate, length_groups] at counts
    have room : 8 - ((groups bits).take before).length -
        ((groups bits).drop (before + run)).length = run := by omega
    have fits : ((groups bits).take before).length +
        ((groups bits).drop (before + run)).length ≤ 7 := by omega
    rw [if_neg short, parse?, sides]
    simp only [readSide_groupsText _ (small (List.take_subset _ _)),
      readSide_groupsText _ (small (List.drop_subset _ _)), if_pos fits, room, ← whole,
      ofGroups_groups]

end ProxyAutoConfig.Net.Ipv6
