import ProxyAutoConfig.Proofs.Text.Cut
import ProxyAutoConfig.Url.Parser

/-!
# Spellings of one URL

Padding around a URL and line ends within it do not count, so one URL has many spellings. Of a text
with a visible character in it, what stands in front of the character and what stands behind it are
tidied apart from each other (`relevant_append`). So the scheme of a URL is read from the text in
front of its first colon alone, and everything else from the text behind it (`parse_append`).
-/

namespace ProxyAutoConfig.Url

open ProxyAutoConfig.Text

/-- The characters of a part that count. -/
def kept (cs : List Char) : List Char :=
  cs.filter (!isSkipped ·)

/-- What counts of the first part of a URL. -/
def relevantFront (cs : List Char) : List Char :=
  kept (cs.dropWhile isPadding)

/-- What counts of the last part of a URL. -/
def relevantBack (cs : List Char) : List Char :=
  kept (cs.reverse.dropWhile isPadding).reverse

variable {c : Char} {cs front back : List Char}

/-! ## Parts -/

/-- A character that is no padding counts. -/
theorem isSkipped_of_visible (visible : isPadding c = false) : isSkipped c = false := by
  rw [← Bool.not_eq_true]
  intro skipped
  simp only [isSkipped, Bool.or_eq_true, beq_iff_eq] at skipped
  rcases skipped with (rfl | rfl) | rfl <;> cases visible

/-- Parts are tidied one after the other. -/
theorem kept_append : kept (front ++ back) = kept front ++ kept back :=
  List.filter_append _ _

/-- A visible character counts among those behind it. -/
theorem kept_cons_of_visible (visible : isPadding c = false) : kept (c :: cs) = c :: kept cs := by
  have counts : (!isSkipped c) = true := by
    rw [isSkipped_of_visible visible]
    rfl
  exact List.filter_cons_of_pos counts

/-- A text of visible characters stays as it is. -/
theorem kept_of_visible (visible : ∀ c ∈ cs, isPadding c = false) : kept cs = cs := by
  refine List.filter_eq_self.mpr fun c mem => ?_
  rw [isSkipped_of_visible (visible c mem)]
  rfl

/-- No padding stands in front of a text of visible characters. -/
theorem dropWhile_of_visible (visible : ∀ c ∈ cs, isPadding c = false) :
    cs.dropWhile isPadding = cs := by
  cases cs with
  | nil => rfl
  | cons c cs =>
    exact List.dropWhile_cons_of_neg (Bool.eq_false_iff.mp (visible c List.mem_cons_self))

/-- Nothing is added to a part. -/
theorem mem_of_mem_kept (mem : c ∈ kept cs) : c ∈ cs :=
  (List.mem_filter.mp mem).1

theorem mem_of_mem_relevantFront (mem : c ∈ relevantFront cs) : c ∈ cs :=
  (List.dropWhile_sublist _).subset (mem_of_mem_kept mem)

/-- Padding at the end begins behind a visible character. -/
theorem dropWhile_reverse_of_visible (visible : isPadding c = false) :
    ((front ++ c :: back).reverse.dropWhile isPadding).reverse =
      front ++ c :: (back.reverse.dropWhile isPadding).reverse := by
  rw [List.reverse_append, List.reverse_cons, List.append_assoc, List.singleton_append,
    dropWhile_append_cons visible, List.reverse_append, List.reverse_cons,
    List.reverse_reverse, List.append_assoc, List.singleton_append]

/-- **The two sides of a visible character are tidied apart.** -/
theorem relevant_append (visible : isPadding c = false) :
    relevant (front ++ c :: back) = relevantFront front ++ c :: relevantBack back := by
  show kept (((front ++ c :: back).dropWhile isPadding).reverse.dropWhile isPadding).reverse = _
  rw [dropWhile_append_cons visible, dropWhile_reverse_of_visible visible, kept_append,
    kept_cons_of_visible visible]
  rfl

/-- Of a last part, only what follows its last visible character has padding taken away. -/
theorem relevantBack_append (visible : isPadding c = false) :
    relevantBack (front ++ c :: back) = kept front ++ c :: relevantBack back := by
  rw [relevantBack, dropWhile_reverse_of_visible visible, kept_append,
    kept_cons_of_visible visible]
  rfl

/-! ## The scheme -/

/-- The scheme that the text in front of a URL's first colon spells. -/
def schemeOf? (cs : List Char) : Option String :=
  (readScheme? (relevantFront cs ++ [':'])).map fun read => String.ofList read.1

/-- What stands behind a scheme does not matter for it. -/
theorem readScheme?_append_colon (absent : ':' ∉ front) (rest : List Char) :
    readScheme? (front ++ ':' :: rest) =
      (readScheme? (front ++ [':'])).map fun read => (read.1, rest) := by
  rw [readScheme?, readScheme?, cutFirst?_append absent, cutFirst?_append absent]
  cases front with
  | nil => rfl
  | cons c cs =>
    simp only
    split <;> rfl

/-- Read a URL behind the colon of its scheme. -/
def readBehind (scheme : String) (cs : List Char) : Except Flaw Url :=
  match Scheme.kind scheme with
  | .file => readFile cs
  | .network _ => readHierarchical scheme (cs.dropWhile fun c => c == '/' || c == '\\')
  | .other => readOther scheme cs

/-- **A URL is read from its scheme and from the text behind the colon**, each tidied for itself. -/
theorem parse_append {text : String} {scheme rest : List Char}
    (whole : text.toList = scheme ++ ':' :: rest) (absent : ':' ∉ scheme) :
    parse text =
      match schemeOf? scheme with
      | none => .error .relative
      | some name => readBehind name (relevantBack rest) := by
  have front : ':' ∉ relevantFront scheme := fun mem => absent (mem_of_mem_relevantFront mem)
  rw [parse, whole, relevant_append (by decide), readScheme?_append_colon front, schemeOf?]
  cases readScheme? (relevantFront scheme ++ [':']) <;> rfl

/-- The scheme has rules of its own. -/
def isSpecialScheme (scheme : List Char) : Bool :=
  (schemeOf? scheme).any fun name => (Scheme.kind name).isSpecial

/-- **Behind two slashes stands an authority**, unless further slashes follow. -/
theorem readBehind_slashes {scheme : String}
    (goesOn : ∀ c ∈ cs.head?, endsAuthority (Scheme.kind scheme).isSpecial c = false) :
    readBehind scheme ('/' :: '/' :: cs) =
      if Scheme.kind scheme = .file then readFileHost cs else readHierarchical scheme cs := by
  rw [readBehind]
  cases kind : Scheme.kind scheme with
  | file => rfl
  | other => rfl
  | network port =>
    have slashes : ['/', '/'].all (fun c => c == '/' || c == '\\') = true := by decide
    have stops : ∀ c ∈ cs.head?, (c == '/' || c == '\\') = false := by
      intro c mem
      have inside := goesOn c mem
      simp only [kind, endsAuthority, Scheme.Kind.isSpecial, Bool.true_and,
        Bool.or_eq_false_iff] at inside
      rw [inside.1.1.1, inside.2, Bool.or_self]
    have passed := dropWhile_append_of_ends (List.all_eq_true.mp slashes) stops
    rw [if_neg nofun]
    exact congrArg (readHierarchical scheme) passed

end ProxyAutoConfig.Url
