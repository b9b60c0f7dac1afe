import ProxyAutoConfig.Text.Blank
import ProxyAutoConfig.Text.Cut

/-!
# Where a text is cut

The places at which texts are cut, seen from the two sides: a text put together from two parts
falls apart into them again where the first part holds nothing that ends it and the second one
begins with such an end, or is empty.
-/

namespace ProxyAutoConfig.Text

variable {p : Char → Bool} {front back : List Char}

/-- A part that goes on throughout, before one that does not go on with it, is taken whole. -/
theorem takeWhile_append_of_ends (inside : ∀ c ∈ front, p c = true)
    (ends : ∀ c ∈ back.head?, p c = false) : (front ++ back).takeWhile p = front := by
  rw [List.takeWhile_append_of_pos inside]
  cases back with
  | nil => exact List.append_nil front
  | cons c cs =>
    rw [List.takeWhile_cons_of_neg (Bool.eq_false_iff.mp (ends c rfl)), List.append_nil]

/-- And what stands behind it is left whole. -/
theorem dropWhile_append_of_ends (inside : ∀ c ∈ front, p c = true)
    (ends : ∀ c ∈ back.head?, p c = false) : (front ++ back).dropWhile p = back := by
  rw [List.dropWhile_append_of_pos inside]
  cases back with
  | nil => rfl
  | cons c cs => exact List.dropWhile_cons_of_neg (Bool.eq_false_iff.mp (ends c rfl))

/-- From a text that does not go on at all nothing is dropped, -/
theorem dropWhile_eq_self_of_free {cs : List Char} (free : ∀ c ∈ cs, p c = false) :
    cs.dropWhile p = cs := by
  cases cs with
  | nil => rfl
  | cons c cs => exact List.dropWhile_cons_of_neg (Bool.eq_false_iff.mp (free c List.mem_cons_self))

/-- from neither end. -/
theorem reverse_dropWhile_eq_self_of_free {cs : List Char} (free : ∀ c ∈ cs, p c = false) :
    ((cs.dropWhile p).reverse.dropWhile p).reverse = cs := by
  rw [dropWhile_eq_self_of_free free,
    dropWhile_eq_self_of_free fun c mem => free c (List.mem_reverse.mp mem), List.reverse_reverse]

/-- What goes on in front of a character that does not ends at it at the latest. -/
theorem dropWhile_append_cons {c : Char} (ends : p c = false) (front back : List Char) :
    (front ++ c :: back).dropWhile p = front.dropWhile p ++ c :: back := by
  have stops : (c :: back).dropWhile p = c :: back :=
    List.dropWhile_cons_of_neg (Bool.eq_false_iff.mp ends)
  rw [List.dropWhile_append]
  split
  · next nothing => rw [stops, List.isEmpty_iff.mp nothing, List.nil_append]
  · rfl

/-- **A text is cut in one way only.** -/
theorem append_inj_of_ends {front' back' : List Char} (inside : ∀ c ∈ front, p c = true)
    (ends : ∀ c ∈ back.head?, p c = false) (inside' : ∀ c ∈ front', p c = true)
    (ends' : ∀ c ∈ back'.head?, p c = false) (h : front ++ back = front' ++ back') :
    front = front' ∧ back = back' := by
  have fronts := congrArg (List.takeWhile p) h
  rw [takeWhile_append_of_ends inside ends, takeWhile_append_of_ends inside' ends'] at fronts
  subst fronts
  exact ⟨rfl, List.append_cancel_left h⟩

/-- A text that does not hold a character of some kind is made of others. -/
theorem forall_of_any_eq_false {cs : List Char} (absent : cs.any p = false) :
    ∀ c ∈ cs, p c = false :=
  fun c mem => Bool.eq_false_iff.mpr (List.any_eq_false.mp absent c mem)

/-- A text that is not of one kind throughout has a first character of another kind. -/
theorem exists_first {cs : List Char} (mixed : ¬ ∀ c ∈ cs, p c = true) :
    ∃ front c back, cs = front ++ c :: back ∧ (∀ d ∈ front, p d = true) ∧ p c = false := by
  induction cs with
  | nil => exact absurd (List.forall_mem_nil _) mixed
  | cons c cs ih =>
    cases here : p c with
    | false => exact ⟨[], c, cs, rfl, List.forall_mem_nil _, here⟩
    | true =>
      obtain ⟨front, d, back, rfl, kind, other⟩ :=
        ih fun rest => mixed (List.forall_mem_cons.mpr ⟨here, rest⟩)
      exact ⟨c :: front, d, back, rfl, List.forall_mem_cons.mpr ⟨here, kind⟩, other⟩

/-! ## Marks -/

variable {mark : Char}

/-- A text goes on without a mark, up to the first one if there is any. -/
theorem exists_append_mark (mark : Char) (cs : List Char) :
    ∃ front back, cs = front ++ back ∧ mark ∉ front ∧ ∀ c ∈ back.head?, c = mark := by
  by_cases mem : mark ∈ cs
  · obtain ⟨front, back, rfl, absent⟩ := List.eq_append_cons_of_mem mem
    exact ⟨front, mark :: back, rfl, absent, fun c here => (Option.some.inj here).symm⟩
  · exact ⟨cs, [], (List.append_nil cs).symm, mem, nofun⟩

/-- The first mark of a text stands in one place. -/
theorem append_mark_inj {front' back' : List Char} (absent : mark ∉ front)
    (absent' : mark ∉ front') (h : front ++ mark :: back = front' ++ mark :: back') :
    front = front' ∧ back = back' := by
  have cuts := congrArg (cutFirst? mark) h
  rw [cutFirst?_append absent, cutFirst?_append absent'] at cuts
  exact Prod.mk.inj (Option.some.inj cuts)

/-- A text without a mark is not cut at a first one. -/
theorem cutFirst?_eq_none {cs : List Char} (absent : mark ∉ cs) : cutFirst? mark cs = none := by
  induction cs with
  | nil => rfl
  | cons c cs ih =>
    obtain ⟨hc, hcs⟩ := List.ne_and_not_mem_of_not_mem_cons absent
    rw [cutFirst?, if_neg (Ne.symm hc), ih hcs]
    rfl

/-- Nor is it cut at a last one. -/
theorem cutLast?_eq_none {cs : List Char} (absent : mark ∉ cs) : cutLast? mark cs = none := by
  induction cs with
  | nil => rfl
  | cons c cs ih =>
    obtain ⟨hc, hcs⟩ := List.ne_and_not_mem_of_not_mem_cons absent
    simp only [cutLast?, ih hcs, if_neg (Ne.symm hc)]

/-- A text is cut at a mark that none stands behind. -/
theorem cutLast?_append (front : List Char) (absent : mark ∉ back) :
    cutLast? mark (front ++ mark :: back) = some (front, back) := by
  induction front with
  | nil => simp only [List.nil_append, cutLast?, cutLast?_eq_none absent, if_true]
  | cons c cs ih => simp only [List.cons_append, cutLast?, ih]

/-- A mark that stands in a text has a last place there. -/
theorem exists_last_of_mem {cs : List Char} (mem : mark ∈ cs) :
    ∃ before after, cs = before ++ mark :: after ∧ mark ∉ after := by
  obtain ⟨after, before, whole, absent⟩ := List.eq_append_cons_of_mem (List.mem_reverse.mpr mem)
  refine ⟨before.reverse, after.reverse, ?_, fun behind => absent (List.mem_reverse.mp behind)⟩
  rw [← List.reverse_inj, whole, List.reverse_append, List.reverse_cons, List.reverse_reverse,
    List.reverse_reverse, List.append_assoc, List.singleton_append]

/-- The two sides of a cut at a last mark make up the text again, and the right one has no mark. -/
theorem eq_of_cutLast? {cs before after : List Char}
    (cut : cutLast? mark cs = some (before, after)) :
    cs = before ++ mark :: after ∧ mark ∉ after := by
  by_cases mem : mark ∈ cs
  · obtain ⟨b, a, rfl, absent⟩ := exists_last_of_mem mem
    rw [cutLast?_append b absent] at cut
    obtain ⟨rfl, rfl⟩ := Prod.mk.inj (Option.some.inj cut)
    exact ⟨rfl, absent⟩
  · rw [cutLast?_eq_none mem] at cut
    cases cut

/-- **A last mark is found behind whatever stands in front of one**: of a text with a mark in it,
the same end is cut off for every front, and where no further mark follows, the front alone is
left. -/
theorem exists_cutLast?_append (mark : Char) (back : List Char) :
    ∃ extra last, (mark ∉ back → extra = [] ∧ last = back) ∧
      ∀ front, cutLast? mark (front ++ mark :: back) = some (front ++ extra, last) := by
  obtain ⟨extra, last, whole, absent⟩ :=
    exists_last_of_mem (List.mem_cons_self : mark ∈ mark :: back)
  refine ⟨extra, last, fun alone => ?_, fun front => ?_⟩
  · cases extra with
    | nil => exact ⟨rfl, (List.cons.inj whole).2.symm⟩
    | cons c cs =>
      obtain ⟨_, rfl⟩ := List.cons.inj whole
      exact absurd (List.mem_append_right cs List.mem_cons_self) alone
  · rw [whole, ← List.append_assoc, cutLast?_append _ absent]

/-- What stands between parts, or in them, is what a join of the parts is made of. -/
theorem mem_intercalate {c : Char} {parts : List (List Char)}
    (mem : c ∈ [mark].intercalate parts) : c = mark ∨ ∃ part ∈ parts, c ∈ part := by
  induction parts with
  | nil => cases mem
  | cons part parts ih =>
    cases parts with
    | nil => exact .inr ⟨part, List.mem_singleton_self _, by simpa using mem⟩
    | cons next rest =>
      rw [List.intercalate_cons_cons, List.append_assoc] at mem
      rcases List.mem_append.mp mem with here | there
      · exact .inr ⟨part, List.mem_cons_self, here⟩
      · rcases List.mem_cons.mp there with rfl | there
        · exact .inl rfl
        · rcases ih there with rfl | ⟨other, hother, hc⟩
          · exact .inl rfl
          · exact .inr ⟨other, List.mem_cons_of_mem _ hother, hc⟩

/-- Every other character of a text stands in one of the parts between its marks. -/
theorem exists_mem_splitOn {c : Char} (other : c ≠ mark) {cs : List Char} (mem : c ∈ cs) :
    ∃ part ∈ cs.splitOn mark, c ∈ part := by
  have whole : [mark].intercalate (cs.splitOn mark) = cs := List.intercalate_splitOn mark
  rw [← whole] at mem
  rcases mem_intercalate mem with same | found
  · exact absurd same other
  · exact found

/-- What stands in a part of a text stands in the text, and is no character at which it is cut. -/
theorem of_mem_splitOnP {part cs : List Char} (mem : part ∈ cs.splitOnP p) :
    ∀ c ∈ part, c ∈ cs ∧ p c = false := by
  induction cs generalizing part with
  | nil =>
    rw [List.splitOnP_nil] at mem
    obtain rfl := List.mem_singleton.mp mem
    exact List.forall_mem_nil _
  | cons c cs ih =>
    have behind : ∀ {part : List Char}, part ∈ cs.splitOnP p →
        ∀ d ∈ part, d ∈ c :: cs ∧ p d = false := fun other d mem =>
      (ih other d mem).imp_left (List.mem_cons_of_mem c)
    rw [List.splitOnP_cons_eq_if_modifyHead] at mem
    split at mem
    · rcases List.mem_cons.mp mem with rfl | later
      · exact List.forall_mem_nil _
      · exact behind later
    · next on =>
      obtain ⟨first, rest, parts⟩ := List.exists_cons_of_ne_nil (List.splitOnP_ne_nil p cs)
      rw [parts] at mem behind
      rcases List.mem_cons.mp mem with rfl | later
      · exact List.forall_mem_cons.mpr
          ⟨⟨List.mem_cons_self, Bool.eq_false_iff.mpr on⟩, behind List.mem_cons_self⟩
      · exact behind (List.mem_cons_of_mem _ later)

/-! ## Parts -/

/-- A text is cut at a part whose first character does not stand in front of it. -/
theorem cut?_append (absent : mark ∉ front) (part back : List Char) :
    cut? (mark :: part) (front ++ (mark :: part) ++ back) = some (front, back) := by
  induction front with
  | nil =>
    have here : (mark :: part).isPrefixOf (mark :: (part ++ back)) = true :=
      List.isPrefixOf_iff_prefix.mpr ⟨back, List.cons_append⟩
    rw [List.nil_append, List.cons_append, cut?, if_pos here, List.length_cons,
      List.drop_succ_cons, List.drop_left]
  | cons c cs ih =>
    obtain ⟨hc, hcs⟩ := List.ne_and_not_mem_of_not_mem_cons absent
    have further : (mark :: part).isPrefixOf (c :: (cs ++ (mark :: part) ++ back)) = false := by
      rw [List.isPrefixOf_cons_cons, beq_eq_false_iff_ne.mpr hc, Bool.false_and]
    rw [List.cons_append, List.cons_append, cut?, further, ih hcs]
    rfl

variable {part : List Char}

/-- **A text is cut at the first place of a part** whose first character does not come again in it.
Such a part does not overlap with itself, so the place is the first one where the part does not stand
in front of it. -/
theorem cut?_append_of_first (single : mark ∉ part) (first : ¬ (mark :: part) <:+: front)
    (back : List Char) :
    cut? (mark :: part) (front ++ (mark :: part) ++ back) = some (front, back) := by
  induction front with
  | nil => exact cut?_append List.not_mem_nil part back
  | cons c front ih =>
    have behind := ih (mt List.infix_cons first)
    have further : (mark :: part).isPrefixOf (c :: (front ++ (mark :: part) ++ back)) = false := by
      rw [Bool.eq_false_iff, ne_eq, List.isPrefixOf_iff_prefix]
      intro here
      have long : c :: front <+: c :: (front ++ (mark :: part) ++ back) :=
        ⟨(mark :: part) ++ back, by simp⟩
      rcases List.prefix_or_prefix_of_prefix here long with inside | ⟨right, across⟩
      · exact first inside.isInfix
      · -- The part would begin again in itself.
        cases right with
        | nil =>
          rw [List.append_nil] at across
          exact first (across ▸ List.infix_refl _)
        | cons d right =>
          rw [← across, List.append_assoc, ← List.cons_append (a := c), List.prefix_append_right_inj,
            across, List.cons_append, List.cons_prefix_cons] at here
          have inside : front ++ d :: right = part := (List.cons.inj across).2
          rw [← here.1, ← inside] at single
          exact single (List.mem_append_right front List.mem_cons_self)
    rw [List.cons_append, List.cons_append, cut?, further, behind]
    rfl

/-- Where a text is cut, the part stands nowhere earlier. -/
theorem not_infix_of_cut? {cs : List Char} (nonempty : part ≠ [])
    (cut : cut? part cs = some (front, back)) : ¬ part <:+: front := by
  induction cs generalizing front with
  | nil =>
    rw [cut?, if_neg (mt List.isEmpty_iff.mp nonempty)] at cut
    cases cut
  | cons c cs ih =>
    have whole := eq_of_cut? cut
    rw [cut?] at cut
    split at cut
    · next =>
      obtain ⟨rfl, -⟩ := Prod.mk.inj (Option.some.inj cut)
      rwa [List.infix_nil]
    · next further =>
      obtain ⟨⟨before, after⟩, behind, same⟩ := Option.map_eq_some_iff.mp cut
      obtain ⟨rfl, rfl⟩ := Prod.mk.inj same
      rw [List.infix_cons_iff, not_or]
      refine ⟨fun here => further (List.isPrefixOf_iff_prefix.mpr ?_), ih behind⟩
      rw [whole, List.append_assoc]
      exact here.trans (List.prefix_append _ _)

/-- **A part stands in a text** when the text is the part with something around it. -/
theorem holds_iff {cs : List Char} : holds part cs = true ↔ part <:+: cs := by
  induction cs with
  | nil =>
    rw [holds, cut?, List.infix_nil, ← List.isEmpty_iff]
    cases part.isEmpty <;> decide
  | cons c cs ih =>
    rw [holds, cut?, List.infix_cons_iff, ← List.isPrefixOf_iff_prefix]
    split
    · next front => simp only [Option.isSome_some, front, true_or]
    · next front =>
      simp only [Option.isSome_map, ← holds.eq_1, ih, front, Bool.false_eq_true, false_or]

/-- **A mark that a part does not hold is in the way of the part**: the part begins a text with the
mark in it only where it begins what stands in front of the mark. -/
theorem isPrefixOf_append_cons (absent : mark ∉ part) (front back : List Char) :
    part.isPrefixOf (front ++ mark :: back) = part.isPrefixOf front := by
  induction part generalizing front with
  | nil => rfl
  | cons p part ih =>
    obtain ⟨other, behind⟩ := List.ne_and_not_mem_of_not_mem_cons absent
    cases front with
    | nil =>
      rw [List.nil_append, List.isPrefixOf_cons_cons, beq_eq_false_iff_ne.mpr (Ne.symm other),
        Bool.false_and]
      rfl
    | cons c front =>
      rw [List.cons_append, List.isPrefixOf_cons_cons, List.isPrefixOf_cons_cons, ih behind]

/-- So the part stands in front of the mark or behind it, where it stands in the text. -/
theorem infix_append_cons_iff (absent : mark ∉ part) (nonempty : part ≠ []) :
    part <:+: front ++ mark :: back ↔ part <:+: front ∨ part <:+: back := by
  have prefixes : ∀ front, part <+: front ++ mark :: back ↔ part <+: front := fun front => by
    rw [← List.isPrefixOf_iff_prefix, isPrefixOf_append_cons absent, List.isPrefixOf_iff_prefix]
  induction front with
  | nil =>
    have none_first : ¬ part <+: mark :: back := fun first =>
      nonempty (List.prefix_nil.mp ((prefixes []).mp first))
    rw [List.nil_append, List.infix_cons_iff, List.infix_nil, or_iff_right none_first,
      or_iff_right nonempty]
  | cons c front ih =>
    have first := prefixes (c :: front)
    rw [List.cons_append] at first
    rw [List.cons_append, List.infix_cons_iff, List.infix_cons_iff, first, or_assoc]
    exact or_congr_right ih

/-- What is put behind a text makes no part stand in it that it shares no character with. -/
theorem infix_of_infix_append (nonempty : part ≠ []) (apart : ∀ c ∈ part, c ∉ back)
    (held : part <:+: front ++ back) : part <:+: front := by
  rcases List.infix_append_iff_ne_nil.mp held with
    here | there | ⟨left, right, _, hr, rfl, _, behind⟩
  · exact here
  · have first := List.head_mem nonempty
    exact absurd (there.subset first) (apart _ first)
  · have first := List.head_mem hr
    exact absurd (behind.subset first) (apart _ (List.mem_append_right left first))

/-- Nor does it make one stand there whose last character it lacks. -/
theorem infix_of_infix_append_of_last {last : Char} (ends : part.getLast? = some last)
    (absent : last ∉ back) (held : part <:+: front ++ back) : part <:+: front := by
  rcases List.infix_append_iff_ne_nil.mp held with
    here | there | ⟨left, right, _, hr, rfl, _, behind⟩
  · exact here
  · exact absurd (there.subset (List.mem_of_getLast? ends)) absent
  · rw [List.getLast?_append, List.getLast?_eq_some_getLast hr, Option.some_or] at ends
    have stands : last ∈ right := Option.some.inj ends ▸ List.getLast_mem hr
    exact absurd (behind.subset stands) absent

/-! ## Blanks -/

/-- Nothing is left of blanks. -/
theorem trim_of_isAllBlank {cs : List Char} (blank : isAllBlank cs = true) : trim cs = [] := by
  have nothing : (cs ++ []).dropWhile isBlank = [] :=
    dropWhile_append_of_ends (List.all_eq_true.mp blank) nofun
  rw [List.append_nil] at nothing
  rw [trim, trimStart, nothing]
  rfl

/-- **Blanks around a text are no part of it.** -/
theorem trim_append {text : List Char} (blankFront : isAllBlank front = true)
    (blankBack : isAllBlank back = true) (nonempty : text ≠ [])
    (first : ∀ c ∈ text.head?, isBlank c = false) (last : ∀ c ∈ text.getLast?, isBlank c = false) :
    trim (front ++ text ++ back) = text := by
  have start : trimStart (front ++ text ++ back) = text ++ back := by
    rw [trimStart, List.append_assoc]
    refine dropWhile_append_of_ends (List.all_eq_true.mp blankFront) fun c here => first c ?_
    obtain ⟨d, ds, rfl⟩ := List.exists_cons_of_ne_nil nonempty
    exact here
  rw [trim, start, trimEnd, List.reverse_append, dropWhile_append_of_ends, List.reverse_reverse]
  · exact fun c mem => List.all_eq_true.mp blankBack c (List.mem_reverse.mp mem)
  · exact fun c here => last c (by rwa [List.head?_reverse] at here)

/-! ## Fields -/

/-- A blank in front of a text makes no field. -/
theorem fields_cons_blank {c : Char} (blank : isBlank c = true) (cs : List Char) :
    fields (c :: cs) = fields cs := by
  rw [fields, List.splitOnP_cons_eq_if_modifyHead, if_pos blank]
  rfl

/-- A word is the one field of a text. -/
theorem fields_singleton {word : List Char} (nonempty : word ≠ [])
    (solid : ∀ c ∈ word, isBlank c = false) : fields word = [word] := by
  have kept : word.isEmpty = false := List.isEmpty_eq_false_iff.mpr nonempty
  simp only [fields, List.splitOnP_eq_singleton solid, List.filter_cons, List.filter_nil, kept,
    Bool.not_false, if_true]

/-- Two words with a blank between them are the fields of a text. -/
theorem fields_pair {first second : List Char} (hf : first ≠ []) (hs : second ≠ [])
    (solid : ∀ c ∈ first, isBlank c = false) (solid' : ∀ c ∈ second, isBlank c = false) :
    fields (first ++ ' ' :: second) = [first, second] := by
  have kept : first.isEmpty = false := List.isEmpty_eq_false_iff.mpr hf
  have kept' : second.isEmpty = false := List.isEmpty_eq_false_iff.mpr hs
  simp only [fields, List.splitOnP_append_cons_of_forall_mem solid ' ' (by decide),
    List.splitOnP_eq_singleton solid', List.filter_cons, List.filter_nil, kept, kept',
    Bool.not_false, if_true]

end ProxyAutoConfig.Text
