import ProxyAutoConfig.Text.Units

/-!
# Text and its units

The units of a text spell the text (`toEscapedString_ofString`), so that two texts have two sequences
of units (`ofString_injective`). A character is either one unit that is no surrogate, or a high
surrogate in front of a low one; in either case reading takes as many units as it wrote, whatever
follows.

A text is cut at a unit into one piece more than there are such units in it.
-/

namespace ProxyAutoConfig.Text.Units

/-- A character is no surrogate. -/
theorem toNat_valid (c : Char) : c.toNat < 0xD800 ∨ 0xDFFF < c.toNat ∧ c.toNat < 0x110000 :=
  c.valid

theorem isHigh_iff {u : UInt16} : isHigh u ↔ 0xD800 ≤ u.toNat ∧ u.toNat ≤ 0xDBFF := by
  simp only [isHigh, Bool.and_eq_true, decide_eq_true_eq, UInt16.le_iff_toNat_le]
  rfl

theorem isLow_iff {u : UInt16} : isLow u ↔ 0xDC00 ≤ u.toNat ∧ u.toNat ≤ 0xDFFF := by
  simp only [isLow, Bool.and_eq_true, decide_eq_true_eq, UInt16.le_iff_toNat_le]
  rfl

/-- A unit that is no surrogate spells a character by itself. -/
theorem scalars_cons_of_plain {u : UInt16} (high : ¬ isHigh u) (low : ¬ isLow u) (rest : Units) :
    scalars (u :: rest) = .inl (Char.ofNat u.toNat) :: scalars rest := by
  have high := Bool.eq_false_iff.mpr high
  have low := Bool.eq_false_iff.mpr low
  cases rest <;>
    simp only [scalars, high, low, Bool.or_false, Bool.false_and, Bool.false_eq_true, if_false]

/-- **The units of a character are read back as the character**, whatever follows. -/
theorem scalars_ofChar_append (c : Char) (rest : Units) :
    scalars (ofChar c ++ rest) = .inl c :: scalars rest := by
  have valid := toNat_valid c
  unfold ofChar
  dsimp only
  by_cases small : c.toNat < 0x10000
  case pos =>
    have same : c.toNat.toUInt16.toNat = c.toNat := by
      rw [Nat.toUInt16_eq, UInt16.toNat_ofNat_of_lt' small]
    have high : ¬ isHigh c.toNat.toUInt16 := by
      rw [isHigh_iff, same]
      omega
    have low : ¬ isLow c.toNat.toUInt16 := by
      rw [isLow_iff, same]
      omega
    rw [if_pos small, List.singleton_append, scalars_cons_of_plain high low, same, Char.ofNat_toNat]
  case neg =>
    have first : (0xD800 + (c.toNat - 0x10000) / 0x400).toUInt16.toNat =
        0xD800 + (c.toNat - 0x10000) / 0x400 := by
      rw [Nat.toUInt16_eq, UInt16.toNat_ofNat_of_lt' (by show _ < 65536; omega)]
    have second : (0xDC00 + (c.toNat - 0x10000) % 0x400).toUInt16.toNat =
        0xDC00 + (c.toNat - 0x10000) % 0x400 := by
      rw [Nat.toUInt16_eq, UInt16.toNat_ofNat_of_lt' (by show _ < 65536; omega)]
    have high : isHigh (0xD800 + (c.toNat - 0x10000) / 0x400).toUInt16 := by
      rw [isHigh_iff, first]
      omega
    have low : isLow (0xDC00 + (c.toNat - 0x10000) % 0x400).toUInt16 := by
      rw [isLow_iff, second]
      omega
    have paired : pair (0xD800 + (c.toNat - 0x10000) / 0x400).toUInt16
        (0xDC00 + (c.toNat - 0x10000) % 0x400).toUInt16 = c := by
      rw [pair, first, second]
      have sum : 0x10000 + (0xD800 + (c.toNat - 0x10000) / 0x400 - 0xD800) * 0x400 +
          (0xDC00 + (c.toNat - 0x10000) % 0x400 - 0xDC00) = c.toNat := by omega
      rw [sum, Char.ofNat_toNat]
    rw [if_neg small, List.cons_append, List.singleton_append, scalars, high, low, Bool.and_self,
      if_pos rfl, paired]

theorem ofChars_cons (c : Char) (cs : List Char) : ofChars (c :: cs) = ofChar c ++ ofChars cs :=
  List.flatMap_cons

theorem ofChars_append (cs ds : List Char) : ofChars (cs ++ ds) = ofChars cs ++ ofChars ds :=
  List.flatMap_append

/-- The units of some characters spell the characters. -/
theorem scalars_ofChars (cs : List Char) : scalars (ofChars cs) = cs.map .inl := by
  induction cs with
  | nil => rfl
  | cons c cs ih =>
    rw [ofChars_cons, scalars_ofChar_append, List.map_cons, ih]

@[simp] theorem escaped_ofChars (cs : List Char) : escaped (ofChars cs) = cs := by
  rw [escaped, scalars_ofChars, List.flatMap_map, List.flatMap_singleton']

/-- **A text that goes through its units is the same text.** -/
theorem toEscapedString_ofString (s : String) : toEscapedString (ofString s) = s := by
  rw [toEscapedString, ofString, escaped_ofChars, String.ofList_toList]

/-- **Two texts have two sequences of units.** -/
theorem ofString_injective : Function.Injective ofString :=
  Function.LeftInverse.injective toEscapedString_ofString

/-! ## Pieces -/

variable {x : UInt16} {front : Units}

theorem split_singleton (x : UInt16) (text : Units) : split [x] text = splitFrom [x] 0 text := rfl

/-- A unit that is no separator belongs to the piece at hand. -/
theorem splitFrom_cons_of_ne {y : UInt16} (other : y ≠ x) (rest : Units) :
    splitFrom [x] 0 (y :: rest) = (splitFrom [x] 0 rest).modifyHead (y :: ·) := by
  have differs : (x == y) = false := beq_eq_false_iff_ne.mpr other.symm
  simp only [splitFrom, List.isPrefixOf_cons_cons, differs, Bool.false_and, Bool.and_false,
    Bool.false_eq_true, if_false]

/-- **A text is cut at a separator** that does not stand in front of it. -/
theorem split_append (absent : x ∉ front) (back : Units) :
    split [x] (front ++ x :: back) = front :: split [x] back := by
  rw [split_singleton, split_singleton]
  induction front with
  | nil => simp [splitFrom]
  | cons y front ih =>
    obtain ⟨other, absent⟩ := List.ne_and_not_mem_of_not_mem_cons absent
    rw [List.cons_append, splitFrom_cons_of_ne (Ne.symm other), ih absent]
    rfl

/-- A text without a separator is one piece. -/
theorem split_of_notMem (absent : x ∉ front) : split [x] front = [front] := by
  rw [split_singleton]
  induction front with
  | nil => rfl
  | cons y front ih =>
    obtain ⟨other, absent⟩ := List.ne_and_not_mem_of_not_mem_cons absent
    rw [splitFrom_cons_of_ne (Ne.symm other), ih absent]
    rfl

/-- **There is one piece more than there are separators.** -/
theorem length_split (x : UInt16) (u : Units) : (split [x] u).length = u.count x + 1 := by
  rw [split_singleton]
  induction u with
  | nil => rfl
  | cons y rest ih =>
    by_cases same : y = x
    · subst same
      have cut : splitFrom [y] 0 (y :: rest) = [] :: splitFrom [y] 0 rest :=
        split_append List.not_mem_nil rest
      rw [cut, List.length_cons, ih, List.count_cons_self]
    · rw [splitFrom_cons_of_ne same, List.length_modifyHead, ih, List.count_cons_of_ne same]

/-! ## Places -/

variable {part u : Units}

/-- Where a part is found, the text goes on with it. -/
theorem indexFrom?_spec {start i : Nat} (found : indexFrom? part u start = some i) :
    i ≤ u.length ∧ part <+: u.drop i := by
  rw [indexFrom?] at found
  obtain ⟨j, mem, here⟩ := List.exists_of_findSome?_eq_some found
  split at here
  · next front =>
    obtain rfl := Option.some.inj here
    rw [List.mem_range] at mem
    exact ⟨by omega, List.isPrefixOf_iff_prefix.mp front⟩
  · cases here

/-- **A unit is found in a text** where it stands in it. -/
theorem indexFrom?_singleton_eq_none : indexFrom? [x] u 0 = none ↔ x ∉ u := by
  rw [indexFrom?, List.findSome?_eq_none_iff]
  constructor
  · intro nowhere mem
    obtain ⟨front, back, rfl⟩ := List.append_of_mem mem
    have within : front.length ∈ List.range ((front ++ x :: back).length + 1 - 0) := by
      rw [List.mem_range, List.length_append, List.length_cons]
      omega
    have there := nowhere front.length within
    have here : [x].isPrefixOf (x :: back) = true := List.isPrefixOf_iff_prefix.mpr ⟨back, rfl⟩
    rw [Nat.zero_add, List.drop_left, if_pos here] at there
    cases there
  · intro absent i _
    refine if_neg fun front => absent ?_
    exact List.mem_of_mem_drop ((List.isPrefixOf_iff_prefix.mp front).subset (List.mem_singleton_self x))

/-- **At the beginning a part is found** where the text begins with it. -/
theorem lastIndexFrom?_zero (part u : Units) :
    lastIndexFrom? part u 0 = if part.isPrefixOf u then some 0 else none := by
  rw [lastIndexFrom?, Nat.zero_min, List.range_one, List.reverse_singleton, List.find?_singleton,
    List.drop_zero]

end ProxyAutoConfig.Text.Units
