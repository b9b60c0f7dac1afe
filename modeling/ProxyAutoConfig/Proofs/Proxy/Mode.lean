import ProxyAutoConfig.Mode
import ProxyAutoConfig.Proofs.Text.Cut
import ProxyAutoConfig.Proofs.Url.Authority

/-!
# The mode of a token

A token is sorted by the leftmost word of a mode in its capitals. A character that stands in no
such word parts a token into two that are looked through one after the other
(`leftmost?_append`), so what holds no word of a mode between two such characters does not matter.

**The law** (`classify?_leftmost`): the mode of a token is the one whose word stands there in front of
all others (`Leads`), and there is none exactly where no word stands in the token.
-/

namespace ProxyAutoConfig.Mode

open ProxyAutoConfig.Text

/-- The mode of a token is the one that it is sorted by. -/
theorem parse_eq_ok {token : String} {mode : Mode} :
    parse token = .ok mode ↔ classify? token = some mode := by
  unfold parse
  cases classify? token with
  | none => exact ⟨nofun, nofun⟩
  | some found => rw [Except.ok.injEq, Option.some.injEq]

/-- The word of a mode stands for the mode. -/
theorem parse_word (mode : Mode) : parse mode.word = .ok mode := by
  cases mode <;> rfl

/-- Every mode but a direct connection brings a scheme. -/
theorem exists_defaultScheme? {mode : Mode} (proxied : mode ≠ .direct) :
    ∃ scheme, mode.defaultScheme? = some scheme := by
  cases mode with
  | direct => exact absurd rfl proxied
  | proxy => exact ⟨_, rfl⟩
  | socks => exact ⟨_, rfl⟩
  | socks5 => exact ⟨_, rfl⟩

/-- The scheme that a mode brings is written as schemes are. -/
theorem isWrittenScheme_of_defaultScheme? {mode : Mode} {scheme : String}
    (brings : mode.defaultScheme? = some scheme) : Url.IsWrittenScheme scheme := by
  cases mode <;> cases brings <;> exact ⟨by decide, by decide, by decide, by decide⟩

variable {mode : Mode} {mark : Char} {cs : List Char}

/-- A word of a mode does not reach over a character that stands in none. -/
theorem atFront?_append (absent : ∀ mode : Mode, mark ∉ mode.word.toList) (front back : List Char) :
    atFront? (front ++ mark :: back) = atFront? front := by
  simp only [atFront?, isPrefixOf_append_cons (absent _)]

/-- No mode stands in front of a text where no word of one does. -/
theorem atFront?_eq_none (wordless : ∀ mode : Mode, ¬ mode.word.toList <+: cs) :
    atFront? cs = none := by
  rw [atFront?, List.find?_eq_none]
  exact fun mode _ front => wordless mode (List.isPrefixOf_iff_prefix.mp front)

/-- **A character that stands in no word of a mode parts a token in two.** -/
theorem leftmost?_append (absent : ∀ mode : Mode, mark ∉ mode.word.toList)
    (front back : List Char) :
    leftmost? (front ++ mark :: back) = (leftmost? front).or (leftmost? back) := by
  induction front with
  | nil =>
    have none_first : atFront? (mark :: back) = none := by
      have alone := atFront?_append absent [] back
      rw [List.nil_append] at alone
      rw [alone]
      rfl
    simp only [List.nil_append, leftmost?, none_first]
  | cons c front ih =>
    rw [List.cons_append, leftmost?, leftmost?, ih, ← List.cons_append, atFront?_append absent,
      Option.or_assoc]

/-- Without a word of a mode a token has no mode. -/
theorem leftmost?_eq_none (wordless : ∀ mode : Mode, ¬ mode.word.toList <:+: cs) :
    leftmost? cs = none := by
  induction cs with
  | nil => rfl
  | cons c cs ih =>
    rw [leftmost?, atFront?_eq_none fun mode front => wordless mode front.isInfix,
      ih fun mode held => wordless mode (held.trans (List.suffix_cons c cs).isInfix)]
    rfl

/-! ## The leftmost word -/

/-- The modes whose words begin the word of every mode. -/
def roots : List Mode :=
  [socks, direct, proxy]

/-- **A mode leads a text**: its word stands there behind a part in which no word of a mode begins,
and a digit that would make it the word of another mode does not follow. -/
def Leads (mode : Mode) (cs : List Char) : Prop :=
  ∃ before after, cs = before ++ mode.word.toList ++ after ∧
    (∀ i < before.length, ∀ root ∈ roots, ¬ root.word.toList <+: cs.drop i) ∧
    (mode = socks → after.head? ≠ some '5')

/-- The word of a root begins the word of every mode. -/
theorem exists_root (mode : Mode) : ∃ root ∈ roots, root.word.toList <+: mode.word.toList := by
  cases mode with
  | direct => exact ⟨direct, by decide, List.prefix_rfl⟩
  | proxy => exact ⟨proxy, by decide, List.prefix_rfl⟩
  | socks => exact ⟨socks, by decide, List.prefix_rfl⟩
  | socks5 => exact ⟨socks, by decide, ['5'], rfl⟩

/-- A word in front stands for its mode, unless a longer one begins there. -/
theorem atFront?_word_append (after : List Char) (ends : mode = socks → after.head? ≠ some '5') :
    atFront? (mode.word.toList ++ after) = some mode := by
  cases mode with
  | direct => rfl
  | proxy => rfl
  | socks5 => rfl
  | socks =>
    cases after with
    | nil => rfl
    | cons c rest =>
      have other : ('5' == c) = false := by
        rw [beq_eq_false_iff_ne]
        rintro rfl
        exact ends rfl rfl
      have longer : socks5.word.toList.isPrefixOf (socks.word.toList ++ c :: rest) = false := by
        show ('5' == c && _) = false
        rw [other, Bool.false_and]
      have found : socks.word.toList.isPrefixOf (socks.word.toList ++ c :: rest) = true := rfl
      simp only [atFront?, all, List.find?_cons, longer, found]

/-- What is found in front is a word that stands there. -/
theorem prefix_of_atFront? (found : atFront? cs = some mode) : mode.word.toList <+: cs :=
  have front := List.find?_some (p := fun mode : Mode => mode.word.toList.isPrefixOf cs) found
  List.isPrefixOf_iff_prefix.mp front

/-- **The mode in front of a text** is the one whose word begins it, of two such the longer one. -/
theorem atFront?_eq_some : atFront? cs = some mode ↔
    ∃ after, cs = mode.word.toList ++ after ∧ (mode = socks → after.head? ≠ some '5') := by
  constructor
  · intro found
    obtain ⟨after, rfl⟩ := prefix_of_atFront? found
    refine ⟨after, rfl, ?_⟩
    rintro rfl longer
    cases after with
    | nil => cases longer
    | cons c rest =>
      obtain rfl := Option.some.inj longer
      cases found
  · rintro ⟨after, rfl, ends⟩
    exact atFront?_word_append after ends

/-- Where no mode is found in front, no root stands there. -/
theorem not_prefix_of_atFront? (nothing : atFront? cs = none) (root : Mode) :
    ¬ root.word.toList <+: cs := by
  intro front
  have there := List.find?_eq_none.mp nothing root (by cases root <;> decide)
  exact there (List.isPrefixOf_iff_prefix.mpr front)

/-- **The leftmost mode of a text leads it**, and no other one does. -/
theorem leftmost?_eq_some : leftmost? cs = some mode ↔ mode.Leads cs := by
  induction cs with
  | nil =>
    constructor
    · nofun
    · rintro ⟨before, after, whole, _⟩
      cases mode <;> exact absurd whole.symm (by simp [word])
  | cons c cs ih =>
    rw [leftmost?]
    cases found : atFront? (c :: cs) with
    | some first =>
      rw [Option.some_or, Option.some.injEq]
      constructor
      · rintro rfl
        obtain ⟨after, whole, ends⟩ := atFront?_eq_some.mp found
        exact ⟨[], after, whole, nofun, ends⟩
      · rintro ⟨before, after, whole, earlier, ends⟩
        cases before with
        | nil =>
          have same := atFront?_eq_some.mpr ⟨after, whole, ends⟩
          exact Option.some.inj (found.symm.trans same)
        | cons d before =>
          obtain ⟨root, mem, front⟩ := exists_root first
          have stands := front.trans (prefix_of_atFront? found)
          exact absurd stands (earlier 0 (Nat.zero_lt_succ _) root mem)
    | none =>
      rw [Option.none_or, ih]
      constructor
      · rintro ⟨before, after, rfl, earlier, ends⟩
        refine ⟨c :: before, after, rfl, fun i lt root mem => ?_, ends⟩
        cases i with
        | zero => exact not_prefix_of_atFront? found root
        | succ i => exact earlier i (Nat.lt_of_succ_lt_succ lt) root mem
      · rintro ⟨before, after, whole, earlier, ends⟩
        cases before with
        | nil =>
          rw [atFront?_eq_some.mpr ⟨after, whole, ends⟩] at found
          cases found
        | cons d before =>
          obtain ⟨rfl, rest⟩ := List.cons.inj whole
          refine ⟨before, after, rest, fun i lt root mem => ?_, ends⟩
          exact earlier (i + 1) (Nat.succ_lt_succ lt) root mem

/-- A text has no mode when no word of one stands in it. -/
theorem leftmost?_eq_none_iff :
    leftmost? cs = none ↔ ∀ mode : Mode, ¬ mode.word.toList <:+: cs := by
  refine ⟨fun nothing mode held => ?_, leftmost?_eq_none⟩
  induction cs with
  | nil => cases mode <;> exact absurd (List.infix_nil.mp held) (by decide)
  | cons c cs ih =>
    rw [leftmost?, Option.or_eq_none_iff] at nothing
    rcases List.infix_cons_iff.mp held with front | behind
    · exact not_prefix_of_atFront? nothing.1 mode front
    · exact ih nothing.2 behind

/-- **A token has a mode when a word of one stands in its capitals.** -/
theorem isToken_iff {token : String} : isToken token = true ↔
    ∃ mode : Mode, mode.word.toList <:+: Unicode.upperText token.toList := by
  rw [isToken, List.any_eq_true]
  constructor
  · rintro ⟨mode, -, held⟩
    exact ⟨mode, holds_iff.mp held⟩
  · rintro ⟨mode, stands⟩
    exact ⟨mode, by cases mode <;> decide, holds_iff.mpr stands⟩

/-- **A token is sorted by the leftmost word of a mode** in its capitals, and the three ways to ask for
its mode agree. -/
theorem classify?_leftmost (token : String) :
    (∀ mode, classify? token = some mode ↔ mode.Leads (Unicode.upperText token.toList)) ∧
    (classify? token = none ↔
      ∀ mode : Mode, ¬ mode.word.toList <:+: Unicode.upperText token.toList) ∧
    (isToken token = true ↔
      ∃ mode : Mode, mode.word.toList <:+: Unicode.upperText token.toList) ∧
    (∀ mode, parse token = .ok mode ↔ classify? token = some mode) ∧
    ∀ failure, parse token = .error failure ↔
      classify? token = none ∧ failure = .invalidDirective ("unknown mode `" ++ token ++ "`") := by
  have none_iff : classify? token = none ↔ _ := leftmost?_eq_none_iff
  refine ⟨fun mode => leftmost?_eq_some, none_iff, ?_, fun mode => parse_eq_ok, fun failure => ?_⟩
  · exact isToken_iff
  · unfold parse
    cases classify? token with
    | some mode => simp
    | none => simp [eq_comm]

/-- Where two words share letters, the first one counts. -/
example : classify? "SockSocks5" = some .socks := by decide

end ProxyAutoConfig.Mode
