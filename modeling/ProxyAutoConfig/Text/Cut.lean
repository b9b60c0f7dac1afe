/-!
# Cutting text in two

A text is cut at the first place where a part stands, or at the first or last place of one
character; the part itself goes to neither side. Where there is no such place there is nothing
to return.
-/

namespace ProxyAutoConfig.Text

/-- What stands before and after the first place of `part`. -/
def cut? (part : List Char) : List Char → Option (List Char × List Char)
  | [] => if part.isEmpty then some ([], []) else none
  | c :: cs =>
    if part.isPrefixOf (c :: cs) then some ([], (c :: cs).drop part.length)
    else (cut? part cs).map fun (before, after) => (c :: before, after)

/-- What stands before and after the first `mark`. -/
def cutFirst? (mark : Char) : List Char → Option (List Char × List Char)
  | [] => none
  | c :: cs =>
    if c = mark then some ([], cs)
    else (cutFirst? mark cs).map fun (before, after) => (c :: before, after)

/-- What stands before and after the last `mark`. -/
def cutLast? (mark : Char) : List Char → Option (List Char × List Char)
  | [] => none
  | c :: cs =>
    match cutLast? mark cs with
    | some (before, after) => some (c :: before, after)
    | none => if c = mark then some ([], cs) else none

/-- `part` stands somewhere in the text. -/
def holds (part cs : List Char) : Bool :=
  (cut? part cs).isSome

/-- The two sides of a cut at a part make up the text again. -/
theorem eq_of_cut? {part cs before after : List Char} (h : cut? part cs = some (before, after)) :
    cs = before ++ part ++ after := by
  induction cs generalizing before after with
  | nil =>
    cases part with
    | nil => simp_all [cut?]
    | cons p ps => simp [cut?] at h
  | cons c cs ih =>
    rw [cut?] at h
    split at h
    · next hp =>
      obtain ⟨rest, hrest⟩ := List.isPrefixOf_iff_prefix.mp hp
      simp only [Option.some.injEq, Prod.mk.injEq] at h
      rw [← h.1, ← h.2, ← hrest]
      simp
    · obtain ⟨⟨b, a⟩, hc, he⟩ := Option.map_eq_some_iff.mp h
      simp only [Prod.mk.injEq] at he
      rw [← he.1, ← he.2, ih hc]
      simp

/-- The two sides of a cut at a first mark make up the text again, and the left one has no mark. -/
theorem eq_of_cutFirst? {mark : Char} {cs before after : List Char}
    (h : cutFirst? mark cs = some (before, after)) :
    cs = before ++ mark :: after ∧ mark ∉ before := by
  induction cs generalizing before after with
  | nil => simp [cutFirst?] at h
  | cons c cs ih =>
    rw [cutFirst?] at h
    split at h
    · next hc => simp_all
    · next hc =>
      obtain ⟨⟨b, a⟩, hcut, he⟩ := Option.map_eq_some_iff.mp h
      simp only [Prod.mk.injEq] at he
      obtain ⟨heq, hnot⟩ := ih hcut
      rw [← he.1, ← he.2]
      refine ⟨by simp [heq], ?_⟩
      simp only [List.mem_cons, not_or]
      exact ⟨fun e => hc e.symm, hnot⟩

/-- A text is cut at a mark that none stands in front of. -/
theorem cutFirst?_append {mark : Char} {front : List Char} (absent : mark ∉ front)
    (back : List Char) : cutFirst? mark (front ++ mark :: back) = some (front, back) := by
  induction front with
  | nil => simp only [List.nil_append, cutFirst?, if_true]
  | cons c cs ih =>
    rw [List.mem_cons, not_or] at absent
    rw [List.cons_append, cutFirst?, if_neg (Ne.symm absent.1), ih absent.2]
    rfl

end ProxyAutoConfig.Text
