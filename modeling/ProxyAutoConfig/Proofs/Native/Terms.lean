import Mathlib.Data.List.Forall2
import Mathlib.Data.List.Nodup
import ProxyAutoConfig.Native.Range
import ProxyAutoConfig.Proofs.Text.Decimal

/-!
# Words and numbers of ranges

What a term of a range says does not depend on how it is read: a term is a word in letters of either case
(`Term.Is`), or it gives a number (`Term.Gives`), and never both (`Term.not_is_of_gives`). So it names a month,
a day or a year (`Term.Names`), and that is what it is read as (`Term.ofTerm?_eq_some_iff`).
-/

namespace ProxyAutoConfig.Range

open ProxyAutoConfig.Text

namespace Term

/-- A word, in letters of either case. -/
def Is (t : Term) (word : String) : Prop :=
  ∃ cs, t = .text cs ∧ cs.map Char.toUpper = word.toList

/-- **A number that a term gives**, as it is or spelled with blanks around it. -/
inductive Gives : Term → Nat → Prop
  | number {n : Nat} (small : n < 2 ^ 32) : Gives (.number n) n
  | text {cs : List Char} {n : Nat} (spelled : SpellsWord (trim cs) n) : Gives (.text cs) n

/-- **A part of a date that a term names**: a month by its name, a day and a year by their numbers. -/
inductive Names : Term → DatePart → Prop
  | month {t : Term} {m : Nat} {name : String} (there : months[m]? = some name) (is : t.Is name) :
      Names t (.month m)
  | day {t : Term} {n : Nat} (gives : t.Gives n) (first : 1 ≤ n) (last : n ≤ 31) : Names t (.day n)
  | year {t : Term} {n : Nat} (gives : t.Gives n) (late : 31 < n) (early : n < 2 ^ 31) :
      Names t (.year n)

variable {t : Term} {n : Nat}

/-- The word for universal time. -/
theorem isUniversal_iff : t.isUniversal = true ↔ t.Is "GMT" := by
  cases t with
  | number n => exact iff_of_false nofun fun is => nomatch is.choose_spec.1
  | text cs =>
    rw [isUniversal, beq_iff_eq]
    exact ⟨fun gmt => ⟨cs, rfl, gmt⟩, fun ⟨_, same, gmt⟩ => (Term.text.inj same) ▸ gmt⟩

/-- **What is read as a number.** -/
theorem word?_eq_some_iff : t.word? = some n ↔ t.Gives n := by
  constructor
  · intro read
    cases t with
    | number m =>
      have read : (if 0 ≤ m ∧ m < 0x100000000 then some m.toNat else none) = some n := read
      split at read
      next fits =>
        obtain rfl := Option.some.inj read
        obtain ⟨k, rfl⟩ := Int.eq_ofNat_of_zero_le fits.1
        exact .number (Int.ofNat_lt.mp fits.2)
      next => cases read
    | text cs => exact .text (Text.word?_eq_some_iff.mp read)
  · intro gives
    cases gives with
    | number small =>
      have fits : 0 ≤ (n : Int) ∧ (n : Int) < 0x100000000 := ⟨Int.natCast_nonneg n, Int.ofNat_lt.mpr small⟩
      rw [word?, if_pos fits, Int.toNat_natCast]
    | text spelled => exact Text.word?_eq_some_iff.mpr spelled

/-- **A list of words**: they are made of letters, and none comes twice. -/
structure IsVocabulary (words : List String) : Prop where
  distinct : words.Nodup
  letters : ∀ w ∈ words, w.toList ≠ [] ∧ w.toList.all Char.isAlpha = true

theorem isVocabulary_weekdays : IsVocabulary weekdays :=
  ⟨by decide, by decide⟩

theorem isVocabulary_months : IsVocabulary months :=
  ⟨by decide, by decide⟩

/-- A digit is no letter. -/
theorem not_isAlpha_of_isDigit {c : Char} (digit : c.isDigit = true) :
    c.isAlpha = false ∧ c.toUpper.isAlpha = false :=
  of_isAlphanum (P := fun c => c.isDigit = true → c.isAlpha = false ∧ c.toUpper.isAlpha = false)
    (by decide) (Bool.or_eq_true_iff.mpr (.inr digit)) digit

/-- A number is spelled without letters. -/
theorem not_isAlpha_of_mem_capitals {n : Int} {c : Char} (mem : c ∈ (number n).capitals) :
    c.isAlpha = false := by
  rcases List.mem_append.mp mem with sign | digit
  · split at sign
    · rw [List.mem_singleton.mp sign]
      rfl
    · cases sign
  · exact (not_isAlpha_of_isDigit (Nat.isDigit_of_mem_toDigits (by decide) (by decide) digit)).1

section

variable {words : List String} (vocabulary : IsVocabulary words)
include vocabulary

/-- **What has a place among words** is the one in that place. -/
theorem placeIn?_eq_some_iff {i : Nat} :
    t.placeIn? words = some i ↔ ∃ word, words[i]? = some word ∧ t.Is word := by
  rw [placeIn?, List.findIdx?_eq_some_iff_getElem]
  constructor
  · rintro ⟨there, same, _⟩
    have same : words[i].toList = t.capitals := beq_iff_eq.mp same
    refine ⟨words[i], List.getElem?_eq_getElem there, ?_⟩
    cases t with
    | number n =>
      obtain ⟨nonempty, letters⟩ := vocabulary.letters _ (List.getElem_mem there)
      obtain ⟨c, mem⟩ := List.exists_mem_of_ne_nil _ nonempty
      have letter := List.all_eq_true.mp letters c mem
      rw [same] at mem
      rw [not_isAlpha_of_mem_capitals mem] at letter
      cases letter
    | text cs => exact ⟨cs, rfl, same.symm⟩
  · rintro ⟨word, found, cs, rfl, same⟩
    obtain ⟨there, rfl⟩ := List.getElem?_eq_some_iff.mp found
    refine ⟨there, beq_iff_eq.mpr same.symm, ?_⟩
    intro j before first
    have first : words[j].toList = (text cs).capitals := beq_iff_eq.mp first
    have twice : words[j] = words[i] := String.toList_inj.mp (first.trans same)
    exact absurd (vocabulary.distinct.getElem_inj_iff.mp twice) (Nat.ne_of_lt before)

/-- A word gives no number. -/
theorem not_is_of_gives (gives : t.Gives n) {word : String} (mem : word ∈ words) : ¬ t.Is word := by
  rintro ⟨cs, rfl, same⟩
  cases gives with
  | text spelled =>
    obtain ⟨digits, whole, nonempty, each, _⟩ := spelled.spelled
    obtain ⟨c, digit⟩ := List.exists_mem_of_ne_nil _ nonempty
    have inside : c ∈ trim cs := by
      rcases whole with whole | whole
      · exact whole ▸ digit
      · exact whole ▸ List.mem_cons_of_mem _ digit
    have inside : c ∈ cs := by
      have behind := (List.dropWhile_sublist _).mem (List.mem_reverse.mp inside)
      exact (List.dropWhile_sublist _).mem (List.mem_reverse.mp behind)
    have letter := List.all_eq_true.mp (vocabulary.letters _ mem).2 c.toUpper
      (same ▸ List.mem_map_of_mem inside)
    rw [(not_isAlpha_of_isDigit (each c digit)).2] at letter
    cases letter

end

/-- **What is read as a part of a date.** -/
theorem ofTerm?_eq_some_iff {p : DatePart} : DatePart.ofTerm? t = some p ↔ t.Names p := by
  constructor
  · intro read
    unfold DatePart.ofTerm? at read
    split at read
    next m place =>
      obtain rfl := Option.some.inj read
      obtain ⟨name, there, is⟩ := (placeIn?_eq_some_iff isVocabulary_months).mp place
      exact .month there is
    next =>
      split at read
      next n word =>
        have gives := word?_eq_some_iff.mp word
        split at read
        next day =>
          obtain rfl := Option.some.inj read
          exact .day gives day.1 day.2
        next =>
          split at read
          next year =>
            obtain rfl := Option.some.inj read
            exact .year gives year.1 year.2
          next => cases read
      next => cases read
  · intro names
    have placeless {n : Nat} (gives : t.Gives n) : t.placeIn? months = none := by
      rw [Option.eq_none_iff_forall_ne_some]
      intro m place
      obtain ⟨name, there, is⟩ := (placeIn?_eq_some_iff isVocabulary_months).mp place
      exact not_is_of_gives isVocabulary_months gives (List.mem_of_getElem? there) is
    cases names with
    | month there is =>
      simp only [DatePart.ofTerm?, (placeIn?_eq_some_iff isVocabulary_months).mpr ⟨_, there, is⟩]
    | day gives first last =>
      simp only [DatePart.ofTerm?, placeless gives, word?_eq_some_iff.mpr gives, first, last, and_self,
        if_true]
    | @year n gives late early =>
      have large : ¬ (1 ≤ n ∧ n ≤ 31) := fun small => absurd small.2 (Nat.not_le_of_lt late)
      simp only [DatePart.ofTerm?, placeless gives, word?_eq_some_iff.mpr gives, if_neg large]
      exact if_pos ⟨late, early⟩

end Term

/-- The results of a traversal, one by one. -/
theorem mapM_eq_some_iff {α β : Type} {f : α → Option β} {R : α → β → Prop}
    (each : ∀ {a b}, f a = some b ↔ R a b) {as : List α} {bs : List β} :
    as.mapM f = some bs ↔ List.Forall₂ R as bs := by
  induction as generalizing bs with
  | nil =>
    rw [List.mapM_nil, List.forall₂_nil_left_iff]
    exact ⟨fun h => (Option.some.inj h).symm, fun h => h ▸ rfl⟩
  | cons a as ih =>
    rw [List.mapM_cons, List.forall₂_cons_left_iff]
    constructor
    · intro done
      obtain ⟨b, here, done⟩ := Option.bind_eq_some_iff.mp done
      obtain ⟨rest, behind, done⟩ := Option.bind_eq_some_iff.mp done
      exact ⟨b, rest, each.mp here, ih.mp behind, (Option.some.inj done).symm⟩
    · rintro ⟨b, rest, here, behind, rfl⟩
      rw [each.mpr here, ih.mpr behind]
      rfl

end ProxyAutoConfig.Range
