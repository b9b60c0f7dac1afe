import ProxyAutoConfig.Proofs.Text.Cut
import ProxyAutoConfig.Proofs.Text.Percent
import ProxyAutoConfig.Url.Path

/-!
# Paths, read and written

A path that has been read has segments of a settled form: no slash in them, nothing to encode, and
no dots that would be resolved (`isWritten_ofText`). Encoding brings no dots about, since a dot is
not encoded. Of such a path the text is read back as the path (`resolve_splitOnP`).
-/

namespace ProxyAutoConfig.Path

open ProxyAutoConfig.Text

variable {special : Bool} {cs segment : List Char} {done segments : List (List Char)}

/-! ## Dots -/

/-- There are three spellings of a dot. -/
theorem eq_of_afterDot? {rest : List Char} (dot : afterDot? cs = some rest) :
    cs = '.' :: rest ∨ cs = '%' :: '2' :: 'e' :: rest ∨ cs = '%' :: '2' :: 'E' :: rest := by
  unfold afterDot? at dot
  split at dot
  · exact .inl (Option.some.inj dot ▸ rfl)
  · exact .inr (.inl (Option.some.inj dot ▸ rfl))
  · exact .inr (.inr (Option.some.inj dot ▸ rfl))
  · cases dot

/-- Only a percent sign begins an escape, so any other character stood there before. -/
theorem exists_of_encode_eq_cons {reserved : Char → Bool} {d : Char} {rest : List Char}
    (other : d ≠ '%') (encoded : Percent.encode reserved cs = d :: rest) :
    ∃ behind, cs = d :: behind ∧ rest = Percent.encode reserved behind := by
  cases cs with
  | nil => cases encoded
  | cons c cs =>
    rw [Percent.encode_cons] at encoded
    split at encoded
    · obtain ⟨rfl, rfl⟩ := List.cons.inj encoded
      exact ⟨cs, rfl, rfl⟩
    · obtain ⟨b, bs, hb⟩ := List.exists_cons_of_ne_nil (Utf8.encodeChar_ne_nil c)
      rw [hb, List.flatMap_cons, Percent.encodeByte] at encoded
      exact absurd (List.cons.inj encoded).1.symm other

/-- No escape that encoding makes is one of a dot. -/
theorem afterDot?_escape {c : Char} (other : c ≠ '.') (rest : List Char) :
    afterDot? ((Utf8.encodeChar c).flatMap Percent.encodeByte ++ rest) = none := by
  have code : c.toNat ≠ 0x2E := fun same => other (Char.toNat_inj.mp same)
  obtain ⟨b, bs, bytes, first⟩ := Percent.exists_encodeChar (by decide) code
  rw [Option.eq_none_iff_forall_ne_some]
  intro behind dot
  have digits := eq_of_afterDot? dot
  rw [bytes, List.flatMap_cons, Percent.encodeByte] at digits
  have byte := (by decide +kernel : ∀ n < 0x100, n ≠ 0x2E → ¬ (Percent.hexDigit (n / 0x10) = '2' ∧
    (Percent.hexDigit (n % 0x10) = 'e' ∨ Percent.hexDigit (n % 0x10) = 'E')))
    b.toNat b.toNat_lt first
  simp only [List.cons_append, List.cons.injEq] at digits
  rcases digits with dot | small | capital
  · exact absurd dot.1 (by decide)
  · exact byte ⟨small.2.1, .inl small.2.2.1⟩
  · exact byte ⟨capital.2.1, .inr capital.2.2.1⟩

/-- **A dot that stands in a text once it is encoded stood there before.** -/
theorem exists_afterDot? {rest : List Char}
    (dot : afterDot? (Percent.encode Percent.isPathReserved cs) = some rest) :
    ∃ behind, afterDot? cs = some behind ∧
      rest = Percent.encode Percent.isPathReserved behind := by
  cases cs with
  | nil => cases dot
  | cons c cs =>
    by_cases plain : c.toNat < 0x80 ∧ Percent.isPathReserved c = false
    · rw [Percent.encode_cons_of_plain plain.1 plain.2] at dot
      rcases eq_of_afterDot? dot with here | small | capital
      · obtain ⟨rfl, rfl⟩ := List.cons.inj here
        exact ⟨cs, rfl, rfl⟩
      · obtain ⟨rfl, digits⟩ := List.cons.inj small
        obtain ⟨cs, rfl, behind⟩ := exists_of_encode_eq_cons (by decide) digits
        obtain ⟨cs, rfl, rfl⟩ := exists_of_encode_eq_cons (by decide) behind.symm
        exact ⟨cs, rfl, rfl⟩
      · obtain ⟨rfl, digits⟩ := List.cons.inj capital
        obtain ⟨cs, rfl, behind⟩ := exists_of_encode_eq_cons (by decide) digits
        obtain ⟨cs, rfl, rfl⟩ := exists_of_encode_eq_cons (by decide) behind.symm
        exact ⟨cs, rfl, rfl⟩
    · have other : c ≠ '.' := by
        rintro rfl
        exact plain (by decide)
      have escaped : ¬ (decide (c.toNat < 0x80) && !Percent.isPathReserved c) = true := by
        simpa using plain
      rw [Percent.encode_cons, if_neg escaped, afterDot?_escape other] at dot
      cases dot

/-- So encoding makes no segment one of a dot. -/
theorem isDot_encode (plain : isDot cs = false) :
    isDot (Percent.encode Percent.isPathReserved cs) = false := by
  rw [isDot, beq_eq_false_iff_ne] at plain ⊢
  intro dot
  obtain ⟨behind, before, nothing⟩ := exists_afterDot? dot
  cases behind with
  | nil => exact plain before
  | cons c cs => exact Percent.encode_ne_nil (List.cons_ne_nil c cs) nothing.symm

/-- Nor one of two. -/
theorem isDoubleDot_encode (plain : isDoubleDot cs = false) :
    isDoubleDot (Percent.encode Percent.isPathReserved cs) = false := by
  rw [isDoubleDot, beq_eq_false_iff_ne] at plain ⊢
  intro dots
  obtain ⟨middle, first, second⟩ := Option.bind_eq_some_iff.mp dots
  obtain ⟨behind, before, rfl⟩ := exists_afterDot? first
  cases single : isDot behind with
  | true => exact plain (Option.bind_eq_some_iff.mpr ⟨behind, before, beq_iff_eq.mp single⟩)
  | false =>
    have encoded := isDot_encode single
    rw [isDot, second] at encoded
    cases encoded

/-! ## Segments -/

/-- **A segment as it is written**: nothing in it is left to encode, no slash stands in it, and it
is not made of dots. -/
structure IsSegment (special : Bool) (segment : List Char) : Prop where
  plain : ∀ c ∈ segment, c.toNat < 0x80 ∧ Percent.isPathReserved c = false
  solid : ∀ c ∈ segment, isSlash special c = false
  noDot : isDot segment = false
  noDoubleDot : isDoubleDot segment = false

/-- A segment may be empty. -/
theorem isSegment_nil (special : Bool) : IsSegment special [] :=
  ⟨List.forall_mem_nil _, List.forall_mem_nil _, rfl, rfl⟩

/-- A segment without dots is written once it is encoded. -/
theorem isSegment_encode (solid : ∀ c ∈ segment, isSlash special c = false)
    (noDot : isDot segment = false) (noDoubleDot : isDoubleDot segment = false) :
    IsSegment special (Percent.encode Percent.isPathReserved segment) := by
  refine ⟨fun c => Percent.plain_of_mem_encode Percent.keepsEscapes_path, fun c mem => ?_,
    isDot_encode noDot, isDoubleDot_encode noDoubleDot⟩
  rcases Percent.mem_encode mem with own | escape
  · exact solid c own
  · have other : ∀ c ∈ Percent.escapeChars, isSlash special c = false :=
      List.all_iff_forall_prop.mp (by cases special <;> decide)
    exact other c escape

/-- Segments that are done stay as they are, but for one that is taken away. -/
theorem mem_of_mem_dropLast (mem : segment ∈ dropLast done) : segment ∈ done := by
  cases done with
  | nil => exact mem
  | cons last earlier =>
    rw [dropLast] at mem
    split at mem
    · exact mem
    · exact List.mem_cons_of_mem _ mem

/-- **What is resolved** is empty, or the encoding of a segment that is not made of dots. -/
theorem forall_mem_resolve {P : List Char → Prop} (settled : ∀ segment ∈ done, P segment)
    (empty : P []) (each : ∀ segment ∈ segments, isDot segment = false →
      isDoubleDot segment = false → P (Percent.encode Percent.isPathReserved segment)) :
    ∀ segment ∈ resolve done segments, P segment := by
  have dropped : ∀ {done : List (List Char)}, (∀ segment ∈ done, P segment) →
      ∀ segment ∈ dropLast done, P segment :=
    fun settled segment mem => settled segment (mem_of_mem_dropLast mem)
  have reversed : ∀ {done : List (List Char)}, (∀ segment ∈ done, P segment) →
      ∀ segment ∈ done.reverse, P segment :=
    fun settled segment mem => settled segment (List.mem_reverse.mp mem)
  fun_induction resolve done segments with
  | case1 done => exact reversed settled
  | case2 done last twoDots => exact reversed (List.forall_mem_cons.mpr ⟨empty, dropped settled⟩)
  | case3 done last _ dot => exact reversed (List.forall_mem_cons.mpr ⟨empty, settled⟩)
  | case4 done last noDoubleDot noDot =>
    have kept := each last List.mem_cons_self (Bool.eq_false_iff.mpr noDot)
      (Bool.eq_false_iff.mpr noDoubleDot)
    exact reversed (List.forall_mem_cons.mpr ⟨kept, settled⟩)
  | case5 done segment rest _ twoDots ih =>
    exact ih (dropped settled) (List.forall_mem_cons.mp each).2
  | case6 done segment rest _ _ dot ih => exact ih settled (List.forall_mem_cons.mp each).2
  | case7 done segment rest _ noDoubleDot noDot ih =>
    obtain ⟨here, behind⟩ := List.forall_mem_cons.mp each
    have kept := here (Bool.eq_false_iff.mpr noDot) (Bool.eq_false_iff.mpr noDoubleDot)
    exact ih (List.forall_mem_cons.mpr ⟨kept, settled⟩) behind

/-- **Whatever is resolved is written.** -/
theorem isSegment_of_mem_resolve (settled : ∀ segment ∈ done, IsSegment special segment)
    (solid : ∀ segment ∈ segments, ∀ c ∈ segment, isSlash special c = false) :
    ∀ segment ∈ resolve done segments, IsSegment special segment :=
  forall_mem_resolve settled (isSegment_nil special) fun segment mem =>
    isSegment_encode (solid segment mem)

/-- And it is made of characters that stood there, and of those of escapes. -/
theorem of_mem_resolve_splitOnP {cut : Char → Bool} {cs : List Char}
    (settled : ∀ segment ∈ done, ∀ c ∈ segment, c ∈ cs ∨ c ∈ Percent.escapeChars) :
    ∀ segment ∈ resolve done (cs.splitOnP cut), ∀ c ∈ segment, c ∈ cs ∨ c ∈ Percent.escapeChars :=
  forall_mem_resolve settled (List.forall_mem_nil _) fun _ mem _ _ _ own =>
    (Percent.mem_encode own).imp_left fun here => (of_mem_splitOnP mem _ here).1

/-- Some segment is left where there was one. -/
theorem resolve_ne_nil (nonempty : segments ≠ []) : resolve done segments ≠ [] := by
  fun_induction resolve done segments with
  | case1 => exact absurd rfl nonempty
  | case2 => simp
  | case3 => simp
  | case4 => simp
  | case5 done segment rest more _ ih => exact ih (fun none => more none)
  | case6 done segment rest more _ _ ih => exact ih (fun none => more none)
  | case7 done segment rest more _ _ ih => exact ih (fun none => more none)

/-- **Written segments are resolved as they stand.** -/
theorem resolve_of_isSegment (nonempty : segments ≠ [])
    (written : ∀ segment ∈ segments, IsSegment special segment) :
    resolve done segments = done.reverse ++ segments := by
  induction segments generalizing done with
  | nil => exact absurd rfl nonempty
  | cons segment rest ih =>
    obtain ⟨here, behind⟩ := List.forall_mem_cons.mp written
    have kept := Percent.encode_of_plain here.plain
    cases rest with
    | nil =>
      simp only [resolve, here.noDoubleDot, here.noDot, Bool.false_eq_true, if_false, kept,
        List.reverse_cons]
    | cons next rest =>
      rw [resolve, here.noDoubleDot, here.noDot, if_neg Bool.false_ne_true,
        if_neg Bool.false_ne_true, kept, ih (List.cons_ne_nil _ _) behind, List.reverse_cons,
        List.append_assoc, List.singleton_append]
      nofun

/-! ## Paths -/

/-- Segments between slashes. -/
def joined (segments : List (List Char)) : List Char :=
  segments.flatMap ('/' :: ·)

/-- **A path as it is written**: its segments are, and where the scheme has rules there is one. -/
def IsWritten (special : Bool) (path : Path) : Prop :=
  ∃ segments, path = ofSegments segments ∧ (∀ segment ∈ segments, IsSegment special segment) ∧
    (special = true → segments ≠ [])

/-- The text of a path is its segments between slashes. -/
theorem toList_text (segments : List (List Char)) :
    (ofSegments segments).text.toList = joined segments := by
  simp only [ofSegments, text, String.toList_ofList, joined, List.flatMap_map]

/-- What stands neither in the segments nor before them does not stand in the text. -/
theorem not_mem_text_ofSegments {mark : Char} (slash : mark ≠ '/')
    (absent : ∀ segment ∈ segments, mark ∉ segment) : mark ∉ (ofSegments segments).text.toList := by
  rw [toList_text]
  intro mem
  obtain ⟨segment, member, own⟩ := List.mem_flatMap.mp mem
  rcases List.mem_cons.mp own with same | own
  · exact slash same
  · exact absent segment member own

/-- What stands neither in a text nor in escapes does not stand in its path. -/
theorem not_mem_text_ofText {mark : Char} {cs : List Char} (slash : mark ≠ '/')
    (escape : mark ∉ Percent.escapeChars) (absent : mark ∉ cs) :
    mark ∉ (ofText special cs).text.toList := by
  cases cs with
  | nil => cases special <;> exact not_mem_text_ofSegments slash (by simp)
  | cons c rest =>
    refine not_mem_text_ofSegments slash fun segment mem own => ?_
    rcases of_mem_resolve_splitOnP (List.forall_mem_nil _) segment mem mark own with here | there
    · split at here
      · exact absent (List.mem_cons_of_mem c here)
      · exact absent here
    · exact escape there

/-- **A path is read as it is written.** -/
theorem isWritten_ofText (special : Bool) (cs : List Char) :
    IsWritten special (ofText special cs) := by
  cases cs with
  | nil =>
    cases special with
    | true => exact ⟨[[]], rfl, List.forall_mem_singleton.mpr (isSegment_nil _), nofun⟩
    | false => exact ⟨[], rfl, List.forall_mem_nil _, nofun⟩
  | cons c rest =>
    exact ⟨_, rfl, isSegment_of_mem_resolve (List.forall_mem_nil _) fun _ mem c own =>
      (of_mem_splitOnP mem c own).2,
      fun _ => resolve_ne_nil (List.splitOnP_ne_nil _ _)⟩

/-- **Written segments are found between their slashes.** -/
theorem splitOnP_joined (segment : List Char) (segments : List (List Char))
    (solid : ∀ s ∈ segment :: segments, ∀ c ∈ s, isSlash special c = false) :
    (segment ++ joined segments).splitOnP (isSlash special) = segment :: segments := by
  induction segments generalizing segment with
  | nil =>
    rw [joined, List.flatMap_nil, List.append_nil]
    exact List.splitOnP_eq_singleton (solid segment List.mem_cons_self)
  | cons next rest ih =>
    obtain ⟨here, behind⟩ := List.forall_mem_cons.mp solid
    have split : segment ++ joined (next :: rest) = segment ++ '/' :: (next ++ joined rest) := by
      rw [joined, List.flatMap_cons, List.cons_append]
      rfl
    rw [split, List.splitOnP_append_cons_of_forall_mem here '/' (by cases special <;> rfl),
      ih next behind]

/-! ## The paths of files -/

/-- **A file's path as it is written**: no empty segment stands in front, unless it is the only
one. -/
def IsFile (path : Path) : Prop :=
  ∃ segments, path = ofSegments segments ∧ (∀ segment ∈ segments, IsSegment true segment) ∧
    (segments = [[]] ∨ ∃ first rest, segments = first :: rest ∧ first ≠ [])

/-- A file's path is a written one. -/
theorem IsFile.isWritten {path : Path} (file : IsFile path) : IsWritten true path := by
  obtain ⟨segments, same, written, front⟩ := file
  refine ⟨segments, same, written, fun _ nothing => ?_⟩
  rcases front with rfl | ⟨first, rest, rfl, _⟩ <;> cases nothing

/-- Segments whose first one is not empty are a file's path as they stand. -/
theorem ofFile_cons {first : List Char} (rest : List (List Char)) (nonempty : first ≠ []) :
    ofFile (first :: rest) = ofSegments (first :: rest) := by
  have kept : (first :: rest).dropWhile List.isEmpty = first :: rest :=
    List.dropWhile_cons_of_neg (mt List.isEmpty_iff.mp nonempty)
  rw [ofFile, kept]

/-- What stands in none of the segments of a file's path does not stand in its text. -/
theorem not_mem_text_ofFile {mark : Char} (slash : mark ≠ '/')
    (absent : ∀ segment ∈ segments, mark ∉ segment) : mark ∉ (ofFile segments).text.toList := by
  unfold ofFile
  split
  · exact not_mem_text_ofSegments slash (List.forall_mem_singleton.mpr List.not_mem_nil)
  · exact not_mem_text_ofSegments slash fun segment mem =>
      absent segment ((List.dropWhile_sublist _).subset mem)

/-- **A file's path is read as it is written.** -/
theorem isFile_ofFile (written : ∀ segment ∈ segments, IsSegment true segment) :
    IsFile (ofFile segments) := by
  induction segments with
  | nil => exact ⟨[[]], rfl, List.forall_mem_singleton.mpr (isSegment_nil true), .inl rfl⟩
  | cons first rest ih =>
    cases first with
    | nil => exact ih (List.forall_mem_cons.mp written).2
    | cons c cs =>
      rw [ofFile_cons rest (List.cons_ne_nil c cs)]
      exact ⟨_, rfl, written, .inr ⟨_, _, rfl, List.cons_ne_nil c cs⟩⟩

/-! ## Paths as they are shown -/

/-- A path as it is shown: a lone slash is left out. -/
def shown (path : Path) : List Char :=
  if path.text = "/" then [] else path.text.toList

/-- A lone slash is the text of one empty segment. -/
theorem shown_ofSegments (segments : List (List Char)) :
    shown (ofSegments segments) = if segments = [[]] then [] else joined segments := by
  have lone : (ofSegments segments).text = "/" ↔ segments = [[]] := by
    rw [← String.toList_inj, toList_text]
    constructor
    · intro slash
      cases segments with
      | nil => cases slash
      | cons first rest =>
        obtain ⟨rfl, more⟩ := List.append_eq_nil_iff.mp (List.cons.inj slash).2
        cases rest with
        | nil => rfl
        | cons _ _ => cases more
    · rintro rfl
      rfl
  simp only [shown, toList_text, lone]

/-- What is shown begins with a slash. -/
theorem eq_slash_of_mem_head?_shown {path : Path} (written : IsWritten special path) {c : Char}
    (mem : c ∈ (shown path).head?) : c = '/' := by
  obtain ⟨segments, rfl, -, -⟩ := written
  rw [shown_ofSegments] at mem
  split at mem
  · cases mem
  · cases segments with
    | nil => cases mem
    | cons first rest => exact (Option.some.inj mem).symm

/-- It is made of slashes and of characters that need no encoding. -/
theorem plain_of_mem_shown {path : Path} (written : IsWritten special path) {c : Char}
    (mem : c ∈ shown path) : c.toNat < 0x80 ∧ Percent.isPathReserved c = false := by
  obtain ⟨segments, rfl, each, -⟩ := written
  rw [shown_ofSegments] at mem
  split at mem
  · cases mem
  · obtain ⟨segment, member, hc⟩ := List.mem_flatMap.mp mem
    rcases List.mem_cons.mp hc with rfl | own
    · decide
    · exact (each segment member).plain c own

/-- Of several segments, what is shown is read as it was. -/
theorem ofText_joined {first : List Char} {rest : List (List Char)}
    (each : ∀ segment ∈ first :: rest, IsSegment special segment) :
    ofText special (joined (first :: rest)) = ofSegments (first :: rest) := by
  have slash : isSlash special '/' = true := by cases special <;> rfl
  have text : joined (first :: rest) = '/' :: (first ++ joined rest) := rfl
  rw [text, ofText]
  simp only [slash, if_true]
  rw [splitOnP_joined first rest fun s mem => (each s mem).solid,
    resolve_of_isSegment (List.cons_ne_nil _ _) each, List.reverse_nil, List.nil_append]

/-- **What is shown of a path is read as a path that is shown so.** -/
theorem shown_ofText_shown {path : Path} (written : IsWritten special path) :
    shown (ofText special (shown path)) = shown path := by
  have empty : shown (ofText special []) = [] := by cases special <;> rfl
  obtain ⟨segments, rfl, each, -⟩ := written
  rw [shown_ofSegments]
  split
  · exact empty
  · next several =>
    cases segments with
    | nil => exact empty
    | cons first rest => rw [ofText_joined each, shown_ofSegments, if_neg several]

/-- Where the scheme has rules, it is read as the path. -/
theorem ofText_shown {path : Path} (written : IsWritten true path) :
    ofText true (shown path) = path := by
  obtain ⟨segments, rfl, each, nonempty⟩ := written
  rw [shown_ofSegments]
  split
  · next lone => rw [lone]; rfl
  · cases segments with
    | nil => exact absurd rfl (nonempty rfl)
    | cons first rest => exact ofText_joined each

/-- A drive stands at the front of a path. -/
def beginsWithDrive : Path → Bool
  | .segments (first :: _) => isDrive first.toList
  | _ => false

end ProxyAutoConfig.Path
