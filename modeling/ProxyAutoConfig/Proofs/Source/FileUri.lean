import ProxyAutoConfig.Proofs.Url.Authority
import ProxyAutoConfig.Proofs.Url.Path
import ProxyAutoConfig.Source.FilePath

/-!
# Files that are named by a URI

A path is written as a URI with everything in it encoded but the slashes and the unreserved
characters. Such a URI is read back without a change: it holds no character that a URL gives a meaning
of its own, an encoded drive is not taken for one, and no segment becomes one of dots. What is left is
the rule for drives, which looks at the path once it is decoded.

**The law** (`filePath_fileUri`): the path comes back from its URI, without the slash in front of a
drive, and what is no URI is a path as it stands.
-/

namespace ProxyAutoConfig

open ProxyAutoConfig.Text

/-! ## Encoded paths -/

namespace Path

/-- A character that a URI gives no meaning: a letter, a digit, or one of four marks. -/
def isUnreserved (c : Char) : Bool :=
  c.isAlphanum || ['-', '.', '_', '~'].contains c

/-- Encoded in the path of a URI: everything but slashes and unreserved characters. -/
def isUriReserved (c : Char) : Bool :=
  !(isUnreserved c || c == '/')

variable {c : Char} {cs segment : List Char} {segments : List (List Char)}

/-- Whether something holds throughout an encoded path is settled by looking at ASCII. -/
theorem of_mem_encode_uri {P : Char → Prop}
    (each : ∀ n < 0x80, isUriReserved (Char.ofNat n) = false → P (Char.ofNat n))
    (percent : P '%') (mem : c ∈ Percent.encode isUriReserved cs) : P c := by
  rcases Percent.plain_or_escape_of_mem_encode mem with ⟨ascii, free⟩ | escape
  · exact of_ascii (P := fun c => isUriReserved c = false → P c) each ascii free
  · have digits : ∀ c ∈ Percent.escapeChars,
        c = '%' ∨ (c.toNat < 0x80 ∧ isUriReserved c = false) :=
      List.all_iff_forall_prop.mp (by decide)
    rcases digits c escape with rfl | ⟨ascii, free⟩
    · exact percent
    · exact of_ascii (P := fun c => isUriReserved c = false → P c) each ascii free

/-- **Encoded dots are the dots that stood there**: a percent sign is encoded, so it begins no escape
of a dot. -/
theorem exists_afterDot?_uri {rest : List Char}
    (dot : afterDot? (Percent.encode isUriReserved cs) = some rest) :
    ∃ behind, cs = '.' :: behind ∧ rest = Percent.encode isUriReserved behind := by
  cases cs with
  | nil => cases dot
  | cons c cs =>
    by_cases here : c = '.'
    · subst here
      rw [Percent.encode_cons_of_plain (by decide) (by decide)] at dot
      exact ⟨cs, rfl, (Option.some.inj dot).symm⟩
    · rw [Percent.encode_cons] at dot
      split at dot
      · next plain =>
        have percent : c ≠ '%' := by
          rintro rfl
          exact absurd plain (by decide)
        rcases eq_of_afterDot? dot with same | same | same
        · exact absurd (List.cons.inj same).1 here
        · exact absurd (List.cons.inj same).1 percent
        · exact absurd (List.cons.inj same).1 percent
      · rw [afterDot?_escape here] at dot
        cases dot

/-- **The name of a file or of a folder**: not empty, without a slash, and neither one dot nor two. -/
structure IsEntry (segment : List Char) : Prop where
  ne_nil : segment ≠ []
  solid : '/' ∉ segment
  ne_dot : segment ≠ ['.']
  ne_dots : segment ≠ ['.', '.']

instance (segment : List Char) : Decidable (IsEntry segment) :=
  decidable_of_iff (segment ≠ [] ∧ '/' ∉ segment ∧ segment ≠ ['.'] ∧ segment ≠ ['.', '.'])
    ⟨fun ⟨nonempty, solid, dot, dots⟩ => ⟨nonempty, solid, dot, dots⟩,
      fun entry => ⟨entry.ne_nil, entry.solid, entry.ne_dot, entry.ne_dots⟩⟩

/-- Nothing is encoded as nothing only. -/
theorem eq_nil_of_encode (nothing : [] = Percent.encode isUriReserved cs) : cs = [] := by
  by_contra some
  exact Percent.encode_ne_nil some nothing.symm

/-- **An encoded name is a segment as it is written.** -/
theorem IsEntry.isSegment (entry : IsEntry segment) :
    IsSegment true (Percent.encode isUriReserved segment) where
  plain c mem := of_mem_encode_uri
    (P := fun c => c.toNat < 0x80 ∧ Percent.isPathReserved c = false) (by decide) (by decide) mem
  solid c mem := by
    have slash : '/' ∉ Percent.encode isUriReserved segment := by
      intro mem
      rcases Percent.mem_encode mem with own | escape
      · exact entry.solid own
      · exact absurd escape (by decide)
    have other := of_mem_encode_uri (P := fun c => isSlash true c = true → c = '/')
      (by decide) (by decide) mem
    rw [← Bool.not_eq_true]
    intro ends
    exact slash (other ends ▸ mem)
  noDot := by
    rw [isDot, beq_eq_false_iff_ne]
    intro dot
    obtain ⟨behind, same, nothing⟩ := exists_afterDot?_uri dot
    rw [eq_nil_of_encode nothing] at same
    exact entry.ne_dot same
  noDoubleDot := by
    rw [isDoubleDot, beq_eq_false_iff_ne]
    intro dots
    obtain ⟨middle, first, second⟩ := Option.bind_eq_some_iff.mp dots
    obtain ⟨behind, same, rfl⟩ := exists_afterDot?_uri first
    obtain ⟨behind', rfl, nothing⟩ := exists_afterDot?_uri second
    rw [eq_nil_of_encode nothing] at same
    exact entry.ne_dots same

/-- Segments are encoded one by one. -/
theorem encode_joined (segments : List (List Char)) :
    Percent.encode isUriReserved (joined segments) =
      joined (segments.map (Percent.encode isUriReserved)) := by
  induction segments with
  | nil => rfl
  | cons segment rest ih =>
    have slash : Percent.encode isUriReserved ('/' :: (segment ++ joined rest)) =
        '/' :: Percent.encode isUriReserved (segment ++ joined rest) :=
      Percent.encode_cons_of_plain (by decide) (by decide) _
    have parts : Percent.encode isUriReserved (segment ++ joined rest) =
        Percent.encode isUriReserved segment ++ Percent.encode isUriReserved (joined rest) :=
      List.flatMap_append
    rw [ih] at parts
    exact slash.trans (congrArg ('/' :: ·) parts)

end Path

/-! ## Their URIs -/

namespace Url

variable {cs first : List Char} {rest : List (List Char)}

/-- **A file URL without a host is read as its path**, segment by segment. -/
theorem readFile_joined (nonempty : first ≠ [])
    (written : ∀ segment ∈ first :: rest, Path.IsSegment true segment) :
    readFile ('/' :: '/' :: Path.joined (first :: rest)) =
      .ok (fileUrl .empty (Path.ofSegments (first :: rest)) []) := by
  have noTail : ∀ c ∈ Path.joined (first :: rest), (c == '?' || c == '#') = false := by
    intro c mem
    obtain ⟨segment, member, own⟩ := List.mem_flatMap.mp mem
    rcases List.mem_cons.mp own with rfl | own
    · rfl
    · have plain := (written segment member).plain c own
      exact of_ascii
        (P := fun c => Percent.isPathReserved c = false → (c == '?' || c == '#') = false)
        (by decide) plain.1 plain.2
  have cut : cutBefore (endsAuthority true) (Path.joined (first :: rest)) =
      ([], Path.joined (first :: rest)) :=
    cutBefore_append (List.forall_mem_nil _) (by rintro c ⟨⟩; rfl)
  have segments : fileSegments (dropSlash (Path.joined (first :: rest))) = first :: rest := by
    have behind : dropSlash (Path.joined (first :: rest)) = first ++ Path.joined rest := rfl
    rw [behind, fileSegments, Path.splitOnP_joined first rest fun s mem => (written s mem).solid,
      Path.resolve_of_isSegment (List.cons_ne_nil _ _) written, List.reverse_nil, List.nil_append]
  have host : readFile ('/' :: '/' :: Path.joined (first :: rest)) =
      readFileHost (Path.joined (first :: rest)) := rfl
  rw [host, readFileHost, cut]
  simp only [cutBefore_of_forall noTail, segments, Path.ofFile_cons rest nonempty, Path.isDrive,
    Bool.false_eq_true, if_false, List.isEmpty_nil, if_true]

end Url

namespace Source

open ProxyAutoConfig.Path

/-- The URI that names the file of a path. -/
def fileUri (path : List Char) : String :=
  "file://" ++ String.ofList (Percent.encode isUriReserved path)

variable {path : List Char} {specifier : String} {segments : List (List Char)}

/-- The characters of such a URI are those of its scheme, two slashes and the encoded path. -/
theorem toList_fileUri (path : List Char) :
    (fileUri path).toList =
      ['f', 'i', 'l', 'e'] ++ ':' :: '/' :: '/' :: Percent.encode isUriReserved path := by
  rw [fileUri, String.toList_append, String.toList_ofList, String.toList_ofList]
  rfl

/-- They are visible and no blanks. -/
theorem visible_of_mem_fileUri :
    ∀ c ∈ (fileUri path).toList, Url.isPadding c = false ∧ isBlank c = false := by
  have scheme : ∀ c ∈ ['f', 'i', 'l', 'e', ':', '/', '/'],
      (Url.isPadding c || isBlank c) = false := forall_of_any_eq_false (by decide)
  intro c mem
  rw [toList_fileUri] at mem
  have parts : c ∈ ['f', 'i', 'l', 'e', ':', '/', '/'] ++ Percent.encode isUriReserved path := mem
  rcases List.mem_append.mp parts with front | own
  · exact Bool.or_eq_false_iff.mp (scheme c front)
  · exact of_mem_encode_uri (P := fun c => Url.isPadding c = false ∧ isBlank c = false)
      (by decide) (by decide) own

/-- A specifier that holds no `file://` is a path as it stands. -/
theorem filePath_of_not_infix (absent : ¬ "file://".toList <:+: specifier.toList) :
    filePath specifier = .ok specifier := by
  have nowhere : holds "file://".toList specifier.toList = false :=
    Bool.eq_false_iff.mpr fun held => absent (holds_iff.mp held)
  simp only [filePath, nowhere, Bool.not_false, if_true]

/-- The URI of a path is read as a file URL with the encoded path. -/
theorem parse_fileUri (nonempty : segments ≠ [])
    (entries : ∀ segment ∈ segments, IsEntry segment) :
    Url.parse (fileUri (joined segments)) =
      .ok (Url.fileUrl .empty
        (ofSegments (segments.map (Percent.encode isUriReserved))) []) := by
  obtain ⟨first, rest, rfl⟩ := List.exists_cons_of_ne_nil nonempty
  have counts : Url.relevant (fileUri (joined (first :: rest))).toList = _ :=
    Url.relevant_of_visible fun c mem => (visible_of_mem_fileUri c mem).1
  have written : ∀ segment ∈ (first :: rest).map (Percent.encode isUriReserved),
      IsSegment true segment := by
    intro segment mem
    obtain ⟨entry, member, rfl⟩ := List.mem_map.mp mem
    exact (entries entry member).isSegment
  have named : Percent.encode isUriReserved first ≠ [] :=
    Percent.encode_ne_nil (entries first List.mem_cons_self).ne_nil
  rw [Url.parse, counts, toList_fileUri, encode_joined, Url.readScheme?,
    cutFirst?_append (by decide)]
  exact Url.readFile_joined named written

/-- **The path is decoded from its URI.** -/
theorem filePath_of_entries (nonempty : segments ≠ [])
    (entries : ∀ segment ∈ segments, IsEntry segment) :
    filePath (fileUri (joined segments)) =
      .ok (String.ofList (if beginsWithDrive (joined segments) then (joined segments).drop 1
        else joined segments)) := by
  have held : holds "file://".toList (fileUri (joined segments)).toList = true := by
    rw [holds_iff, fileUri, String.toList_append]
    exact (List.prefix_append _ _).isInfix
  have trimmed : trim (fileUri (joined segments)).toList = (fileUri (joined segments)).toList :=
    reverse_dropWhile_eq_self_of_free fun c mem => (visible_of_mem_fileUri c mem).2
  have path : (Url.fileUrl .empty (ofSegments (segments.map (Percent.encode isUriReserved)))
      []).path.text.toList = Percent.encode isUriReserved (joined segments) := by
    rw [encode_joined, ← toList_text]
    rfl
  have decoded : Percent.decodeText (Percent.encode isUriReserved (joined segments)) =
      .ok (joined segments) :=
    Utf8.decode_eq_ok.mpr (Percent.decode_encode_of_reserved (by decide) _)
  simp only [filePath, held, Bool.not_true, Bool.false_eq_true, if_false, trimmed,
    String.ofList_toList, parse_fileUri nonempty entries, path, decoded]

/-- **A path comes back from its URI.** Of names between slashes, whatever characters they have, the
URI names the file of the path; where the path begins with a letter, a colon and a slash behind its own,
it is the path without the slash in front. What holds no `file://` is a path as it stands. -/
theorem filePath_fileUri :
    (∀ segments, segments ≠ [] → (∀ segment ∈ segments, IsEntry segment) →
      (∀ letter rest, joined segments = '/' :: letter :: ':' :: '/' :: rest →
        letter.isAlpha = true → filePath (fileUri (joined segments)) =
          .ok (String.ofList (letter :: ':' :: '/' :: rest))) ∧
      ((¬ ∃ letter rest, joined segments = '/' :: letter :: ':' :: '/' :: rest ∧
          letter.isAlpha = true) →
        filePath (fileUri (joined segments)) = .ok (String.ofList (joined segments)))) ∧
    ∀ specifier, ¬ "file://".toList <:+: specifier.toList → filePath specifier = .ok specifier := by
  refine ⟨fun segments nonempty entries => ?_, fun specifier => filePath_of_not_infix⟩
  rw [filePath_of_entries nonempty entries]
  constructor
  · intro letter rest drive alpha
    rw [drive, beginsWithDrive, alpha, if_pos rfl]
    rfl
  · intro none
    have plain : beginsWithDrive (joined segments) = false := by
      rw [← Bool.not_eq_true]
      intro drive
      unfold beginsWithDrive at drive
      split at drive
      · next letter rest same => exact none ⟨letter, rest, same, drive⟩
      · cases drive
    rw [plain, if_neg Bool.false_ne_true]

/-- So it is with a drive, whose colon is encoded, with a name that looks like an escape, and with a
path that no URI names. -/
theorem filePath_fileUri_drive :
    filePath "file:///C%3A/50%25/%C3%A9.pac" = .ok "C:/50%/é.pac" ∧
      filePath "file:///%2541" = .ok "/%41" ∧
      filePath "C:\\wpad.pac" = .ok "C:\\wpad.pac" := by
  have uri : fileUri (joined [['C', ':'], ['5', '0', '%'], ['é', '.', 'p', 'a', 'c']]) =
      "file:///C%3A/50%25/%C3%A9.pac" := by decide +kernel
  have uri' : fileUri (joined [['%', '4', '1']]) = "file:///%2541" := by decide +kernel
  have drive := (filePath_fileUri.1 [['C', ':'], ['5', '0', '%'], ['é', '.', 'p', 'a', 'c']]
    (by decide) (by decide)).1 'C' ['5', '0', '%', '/', 'é', '.', 'p', 'a', 'c'] rfl (by decide)
  have escape := (filePath_fileUri.1 [['%', '4', '1']] (by decide) (by decide)).2
    (by rintro ⟨letter, rest, same, -⟩; cases same)
  rw [uri] at drive
  rw [uri'] at escape
  exact ⟨drive, escape, filePath_fileUri.2 _ fun held => absurd (holds_iff.mpr held) (by decide)⟩

end Source

end ProxyAutoConfig
