import ProxyAutoConfig.Idna.Domain
import ProxyAutoConfig.Proofs.Text.Ascii
import ProxyAutoConfig.Proofs.Text.Cut

/-!
# Plain domain names

A domain name whose labels are made of small letters and digits is its own ASCII form: nothing in
it is mapped, read back, turned around or encoded.
-/

namespace ProxyAutoConfig.Idna

open ProxyAutoConfig.Text ProxyAutoConfig.Unicode

variable {label : List Char} {labels : List (List Char)}

/-- A plain name's characters: plain ones, and the dots between the labels. -/
def isNameChar (c : Char) : Bool :=
  isPlain c || c == '.'

/-- What holds for them is settled by looking at all of them. -/
theorem of_isNameChar {P : Char → Prop} (dot : P '.')
    (each : ∀ n < 0x80, isPlain (Char.ofNat n) = true → P (Char.ofNat n)) {c : Char}
    (char : isNameChar c = true) : P c := by
  rcases Bool.or_eq_true_iff.mp char with plain | same
  · exact of_isPlain each plain
  · exact beq_iff_eq.mp same ▸ dot

/-! ## Mapping -/

/-- No plain character is mapped to another. -/
theorem mapText_of_isNameChar {name : List Char} (chars : ∀ c ∈ name, isNameChar c = true) :
    mapText name = some name := by
  induction name with
  | nil => rfl
  | cons c cs ih =>
    obtain ⟨here, behind⟩ := List.forall_mem_cons.mp chars
    have same : mapChar c = some [c] := by
      have small : c.toNat < 0x80 ∧ c.toLower = c :=
        of_isNameChar (P := fun c => c.toNat < 0x80 ∧ c.toLower = c) (by decide) (by decide) here
      rw [mapChar, if_pos small.1, small.2]
    simp only [mapText, same, ih behind, List.cons_append, List.nil_append]

/-- A plain name is in its canonical form. -/
theorem canonical?_of_isNameChar {name : List Char} (chars : ∀ c ∈ name, isNameChar c = true) :
    canonical? name = some name := by
  have ascii : name.all (·.toNat < 0x80) = true := by
    rw [List.all_eq_true]
    intro c mem
    exact of_isNameChar (P := fun c => decide (c.toNat < 0x80) = true) (by decide) (by decide)
      (chars c mem)
  rw [canonical?, mapText_of_isNameChar chars, Option.map_some, normalForm, if_pos ascii]

/-! ## Labels -/

/-- A plain label stands for itself. -/
theorem readLabel_of_isPlain (plain : ∀ c ∈ label, isPlain c = true) :
    readLabel label = some label := by
  have unmarked : ¬ marker.isPrefixOf label = true := by
    intro marked
    have hyphen : '-' ∈ label := (List.isPrefixOf_iff_prefix.mp marked).subset (by decide)
    exact absurd (plain '-' hyphen) (by decide)
  rw [readLabel, if_neg unmarked]

/-- Joiners are not plain. -/
theorem joinersFit_of_isPlain {done : List Char} (plain : ∀ c ∈ label, isPlain c = true) :
    joinersFit done label = true := by
  induction label generalizing done with
  | nil => rfl
  | cons c cs ih =>
    obtain ⟨here, behind⟩ := List.forall_mem_cons.mp plain
    have other : c ≠ '\u200c' ∧ c ≠ '\u200d' :=
      of_isPlain (P := fun c => c ≠ '\u200c' ∧ c ≠ '\u200d') (by decide) here
    rw [joinersFit, if_neg other.1, if_neg other.2, ih behind, Bool.and_self]

/-- A plain label begins with no mark and has no joiners. -/
theorem labelFits_of_isPlain (plain : ∀ c ∈ label, isPlain c = true) : labelFits label = true := by
  have front : label.head?.any isMark = false := by
    cases label with
    | nil => rfl
    | cons c cs =>
      have ascii : ¬ 0x80 ≤ c.toNat := of_isPlain (P := fun c => ¬ 0x80 ≤ c.toNat) (by decide)
        (plain c List.mem_cons_self)
      simp only [List.head?_cons, Option.any_some, isMark, decide_eq_false ascii, Bool.false_and]
  rw [labelFits, front, joinersFit_of_isPlain plain]
  rfl

/-- A plain label has nothing that runs from right to left. -/
theorem runsRight_of_isPlain (plain : ∀ c ∈ label, isPlain c = true) :
    runsRight label = false := by
  rw [runsRight, List.any_eq_false]
  intro c mem
  have small : c.toNat < 0x80 ∧
      ¬ (asciiDirection c == .right || asciiDirection c == .rightDigit) = true :=
    of_isPlain (P := fun c => c.toNat < 0x80 ∧
      ¬ (asciiDirection c == .right || asciiDirection c == .rightDigit) = true) (by decide)
      (plain c mem)
  rw [direction, if_pos small.1]
  exact small.2

/-- A plain label is written as it is. -/
theorem writeLabel_of_isPlain (plain : ∀ c ∈ label, isPlain c = true) :
    writeLabel label = some label := by
  have ascii : isAscii label = true := by
    rw [isAscii, List.all_eq_true]
    intro c mem
    exact of_isPlain (P := fun c => decide (c.toNat < 0x80) = true) (by decide) (plain c mem)
  rw [writeLabel, if_pos ascii]

/-! ## Names -/

/-- Labels are joined by dots. -/
theorem joinLabels_eq_intercalate (labels : List (List Char)) :
    joinLabels labels = ['.'].intercalate labels := by
  induction labels with
  | nil => rfl
  | cons label labels ih =>
    cases labels with
    | nil => simp only [joinLabels, List.intercalate_singleton]
    | cons next rest =>
      rw [joinLabels, ih, List.intercalate_cons_cons, List.append_assoc, List.singleton_append]
      exact List.cons_ne_nil _ _

/-- A traversal that changes nothing gives back what it went through. -/
theorem mapM_eq_some_self {α : Type} {f : α → Option α} {as : List α}
    (same : ∀ a ∈ as, f a = some a) : as.mapM f = some as := by
  induction as with
  | nil => rfl
  | cons a as ih =>
    obtain ⟨here, behind⟩ := List.forall_mem_cons.mp same
    rw [List.mapM_cons, here, ih behind]
    rfl

/-- The characters of a plain name. -/
theorem isNameChar_of_mem_intercalate (plain : ∀ label ∈ labels, ∀ c ∈ label, isPlain c = true) :
    ∀ c ∈ ['.'].intercalate labels, isNameChar c = true := by
  intro c mem
  rcases mem_intercalate mem with rfl | ⟨label, hl, hc⟩
  · decide
  · exact Bool.or_eq_true_iff.mpr (.inl (plain label hl c hc))

/-- A plain name falls apart into its labels. -/
theorem splitOn_intercalate_of_isPlain (nonempty : labels ≠ [])
    (plain : ∀ label ∈ labels, ∀ c ∈ label, isPlain c = true) :
    (['.'].intercalate labels).splitOn '.' = labels :=
  List.splitOn_intercalate '.'
    (fun label hl dot => absurd (plain label hl '.' dot) (by decide)) nonempty

/-- **A plain name is its own ASCII form.** -/
theorem toAscii?_intercalate (nonempty : labels ≠ [])
    (plain : ∀ label ∈ labels, ∀ c ∈ label, isPlain c = true) :
    toAscii? (['.'].intercalate labels) = some (['.'].intercalate labels) := by
  have chars := isNameChar_of_mem_intercalate plain
  have fits : labels.all labelFits = true :=
    List.all_eq_true.mpr fun label mem => labelFits_of_isPlain (plain label mem)
  have left : labels.any runsRight = false :=
    List.any_eq_false.mpr fun label mem =>
      Bool.eq_false_iff.mp (runsRight_of_isPlain (plain label mem))
  have allowed : (['.'].intercalate labels).any isRefusedInHost = false := by
    rw [List.any_eq_false]
    intro c mem
    exact of_isNameChar (P := fun c => ¬ isRefusedInHost c = true) (by decide) (by decide)
      (chars c mem)
  simp only [toAscii?, canonical?_of_isNameChar chars, Option.bind_eq_bind, Option.bind_some,
    splitOn_intercalate_of_isPlain nonempty plain,
    mapM_eq_some_self fun label mem => readLabel_of_isPlain (plain label mem), fits, left,
    mapM_eq_some_self fun label mem => writeLabel_of_isPlain (plain label mem),
    joinLabels_eq_intercalate, allowed, Bool.not_true, Bool.false_and, Bool.or_self,
    Bool.false_eq_true, if_false]

end ProxyAutoConfig.Idna
