import ProxyAutoConfig.Proofs.Text.Percent
import ProxyAutoConfig.Proofs.TwoRuns
import ProxyAutoConfig.Url.Userinfo

/-!
# Passwords that look alike

Two texts look alike when they begin with words of one length and are the same behind them. A word
consists of letters and digits, so it means nothing to whoever reads the text: it is encoded and
decoded as it stands, it holds no blank, and one star stands for each of its characters.

So parts that look alike make credentials that look alike, or fail to make one in the same way;
and credentials that look alike are shown in the same way.
-/

namespace ProxyAutoConfig

open ProxyAutoConfig.Text

namespace Text

/-- **A word**: letters and digits alone. -/
def IsWord (cs : List Char) : Prop :=
  ∀ c ∈ cs, c.isAlphanum = true

instance (cs : List Char) : Decidable (IsWord cs) :=
  decidable_of_iff (cs.all Char.isAlphanum = true) List.all_eq_true

/-- What holds for letters and digits holds throughout a word. -/
theorem IsWord.forall_mem {P : Char → Prop} {word : List Char} (isWord : IsWord word)
    (each : ∀ n < 0x80, (Char.ofNat n).isAlphanum = true → P (Char.ofNat n)) :
    ∀ c ∈ word, P c :=
  fun c mem => of_isAlphanum each (isWord c mem)

/-- **Texts that look alike**: words of one length in front, and the same behind them. -/
inductive Alike : List Char → List Char → Prop
  | words {word word' : List Char} : IsWord word → IsWord word' → word.length = word'.length →
      ∀ rest, Alike (word ++ rest) (word' ++ rest)

namespace Alike

variable {a b : List Char}

theorem refl (cs : List Char) : Alike cs cs :=
  .words (List.forall_mem_nil _) (List.forall_mem_nil _) rfl cs

/-- Texts that look alike are of one length. -/
theorem length_eq (alike : Alike a b) : a.length = b.length := by
  obtain ⟨_, _, length, rest⟩ := alike
  rw [List.length_append, List.length_append, length]

/-- So the same stars stand for them. -/
theorem mask_eq (alike : Alike a b) : Redaction.mask a = Redaction.mask b :=
  Redaction.mask_eq_of_length alike.length_eq

/-- And both are empty, or none is. -/
theorem isEmpty_eq (alike : Alike a b) : a.isEmpty = b.isEmpty := by
  rw [Bool.eq_iff_iff, List.isEmpty_iff_length_eq_zero, List.isEmpty_iff_length_eq_zero,
    alike.length_eq]

/-- There are blanks in both, or in none. -/
theorem any_isBlank_eq (alike : Alike a b) : a.any isBlank = b.any isBlank := by
  obtain ⟨isWord, isWord', _, rest⟩ := alike
  have blankless : ∀ {word : List Char}, IsWord word → word.any isBlank = false := fun isWord =>
    List.any_eq_false.mpr (isWord.forall_mem (P := fun c => ¬ isBlank c = true) (by decide))
  rw [List.any_append, List.any_append, blankless isWord, blankless isWord']

/-- They are encoded alike in a URL. -/
theorem encodeUserinfo (alike : Alike a b) :
    Alike (Url.encodeUserinfo a).toList (Url.encodeUserinfo b).toList := by
  obtain ⟨isWord, isWord', length, rest⟩ := alike
  have kept : ∀ {word : List Char}, IsWord word →
      (Url.encodeUserinfo (word ++ rest)).toList =
        word ++ Percent.encode Percent.isUserinfoReserved rest := by
    intro word isWord
    have plain : Percent.encode Percent.isUserinfoReserved word = word :=
      Percent.encode_of_plain (isWord.forall_mem
        (P := fun c => c.toNat < 0x80 ∧ Percent.isUserinfoReserved c = false) (by decide))
    rw [Url.encodeUserinfo, String.toList_ofList, Percent.encode, List.flatMap_append,
      ← Percent.encode, plain, ← Percent.encode]
  rw [kept isWord, kept isWord']
  exact .words isWord isWord' length _

/-- **They are decoded alike, or none of them is**: what fails to be text is behind the words. -/
theorem decodePart? {p q : String} (alike : Alike p.toList q.toList) :
    Option.Rel (fun s t => Alike s.toList t.toList) (Url.decodePart? p) (Url.decodePart? q) := by
  have read : ∀ part : String, Url.decodePart? part =
      (Percent.decodeText part.toList).toOption.map String.ofList := by
    intro part
    rw [Url.decodePart?]
    cases Percent.decodeText part.toList <;> rfl
  rw [read, read]
  generalize p.toList = a, q.toList = b at alike
  obtain ⟨isWord, isWord', length, rest⟩ := alike
  have percent : ∀ {word : List Char}, IsWord word → '%' ∉ word := fun isWord mem =>
    absurd (isWord '%' mem) (by decide)
  rw [Percent.toOption_decodeText_append (percent isWord),
    Percent.toOption_decodeText_append (percent isWord')]
  cases (Percent.decodeText rest).toOption with
  | none => exact .none
  | some cs =>
    refine .some ?_
    rw [String.toList_ofList, String.toList_ofList]
    exact .words isWord isWord' length cs

end Alike

end Text

/-! ## Credentials -/

namespace Credential

/-- **Credentials that look alike**: one user name, and passwords that look alike. -/
structure Alike (c d : Credential) : Prop where
  username : c.username = d.username
  password : Text.Alike c.password.toList d.password.toList

theorem Alike.refl (c : Credential) : c.Alike c :=
  ⟨rfl, .refl _⟩

variable {c d : Credential}

/-- **Credentials that look alike are shown in the same way.** -/
theorem Alike.shown_eq (alike : c.Alike d) : c.shown = d.shown := by
  rw [shown, shown, shownParts, shownParts, alike.username, alike.password.mask_eq]

/-- Their parts are told in the same way too. -/
theorem Alike.detail_eq (alike : c.Alike d) : c.detail = d.detail := by
  unfold detail
  rw [alike.username, alike.password.mask_eq]

/-- Passwords that look alike go with the same user names. -/
theorem fits_iff {username p q : String} (alike : Text.Alike p.toList q.toList) :
    Fits username p ↔ Fits username q := by
  simp only [Fits, ne_eq, ← List.isEmpty_iff, alike.isEmpty_eq, alike.any_isBlank_eq]

/-- **Parts that look alike make credentials that look alike, or fail in the same way.** -/
theorem ofParts_alike (username : String) {p q : String} (alike : Text.Alike p.toList q.toList) :
    Outcome.Alike Alike (ofParts username p) (ofParts username q) := by
  rw [ofParts_eq, ofParts_eq, alike.isEmpty_eq]
  split
  · exact .error _
  · by_cases fits : Fits username q
    · rw [dif_pos ((fits_iff alike).mpr fits), dif_pos fits]
      exact .ok ⟨rfl, alike⟩
    · have shown : shownParts username p = shownParts username q := by
        rw [shownParts, shownParts, alike.mask_eq]
      rw [dif_neg (mt (fits_iff alike).mp fits), dif_neg fits, shown]
      exact .error _

end Credential

end ProxyAutoConfig
