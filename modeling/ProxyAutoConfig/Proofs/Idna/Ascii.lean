import Mathlib.Data.List.InsertIdx
import ProxyAutoConfig.Proofs.Idna.Plain

/-!
# The ASCII form of a domain name

It is in ASCII: a label with another character is written in digits, each of them a letter or a
numeral, behind the characters that it has in ASCII.

A name that is in ASCII already may have another form, since its labels are read back and written
again. But letters, numerals, hyphens and dots are all that its form may have and the name has not
(`mem_of_mem_toAscii?`).
-/

namespace ProxyAutoConfig.Idna

open ProxyAutoConfig.Text

/-! ## Punycode -/

namespace Punycode

/-- Digits are letters and numerals. -/
theorem isAlphanum_digit {n : Nat} (small : n < 36) : (digit n).isAlphanum = true :=
  (by decide : ∀ n < 36, (digit n).isAlphanum = true) n small

/-- A threshold is none of the last ten digits. -/
theorem threshold_le (place bias : Nat) : threshold place bias ≤ 26 := by
  unfold threshold
  split
  · omega
  · split <;> omega

/-- Numbers are written in letters and numerals. -/
theorem isAlphanum_writeNumber (bias place n : Nat) :
    ∀ c ∈ writeNumber bias place n, c.isAlphanum = true := by
  fun_induction writeNumber bias place n with
  | case1 place n less =>
    have high := threshold_le place bias
    exact List.forall_mem_singleton.mpr (isAlphanum_digit (by omega))
  | case2 place n more threshold ih =>
    have high : threshold ≤ 26 := threshold_le place bias
    have below := Nat.mod_lt (n - threshold) (show 0 < 36 - threshold by omega)
    exact List.forall_mem_cons.mpr ⟨isAlphanum_digit (by omega), ih⟩

/-- So is what is written for one code point. -/
theorem isAlphanum_writePoint (point basic : Nat) (s : Progress) (cs : List Char) :
    ∀ c ∈ (writePoint point basic s cs).1, c.isAlphanum = true := by
  induction cs generalizing s with
  | nil => exact List.forall_mem_nil _
  | cons d ds ih =>
    rw [writePoint]
    split
    · exact ih _
    · split
      · exact List.forall_mem_append.mpr ⟨isAlphanum_writeNumber _ _ _, ih _⟩
      · exact ih _

/-- And so is what is written for several. -/
theorem isAlphanum_writePoints (cs : List Char) (basic current : Nat) (s : Progress)
    (points : List Nat) : ∀ c ∈ writePoints cs basic current s points, c.isAlphanum = true := by
  induction points generalizing current s with
  | nil => exact List.forall_mem_nil _
  | cons point points ih =>
    exact List.forall_mem_append.mpr ⟨isAlphanum_writePoint _ _ _ _, ih _ _⟩

/-- No character of ASCII is inserted. -/
theorem mem_of_mem_insertAll {done text cs : List Char} {place point bias : Nat} {first : Bool}
    (high : 0x80 ≤ point) (read : insertAll done place point bias first cs = some text) :
    ∀ c ∈ text, c.toNat < 0x80 → c ∈ done := by
  fun_induction insertAll done place point bias first cs with
  | case1 =>
    obtain rfl := Option.some.inj read
    exact fun c mem _ => mem
  | case2 => cases read
  | case3 done place point bias first c cs delta rest number count next spot valid ih =>
    intro c mem ascii
    have next_high : 0x80 ≤ next := Nat.le_trans high (Nat.le_add_right _ _)
    rcases List.eq_or_mem_of_mem_insertIdx (ih next_high read c mem ascii) with rfl | before
    · rw [valid.1] at ascii
      omega
    · exact before
  | case4 => cases read

/-- **What is read has no character of ASCII that it is not read from.** -/
theorem mem_of_mem_decode {cs text : List Char} (read : decode cs = some text) :
    ∀ c ∈ text, c.toNat < 0x80 → c ∈ cs := by
  simp only [decode] at read
  split at read
  · cases read
  · split at read
    · exact fun c mem ascii =>
        List.mem_of_mem_take (mem_of_mem_insertAll (Nat.le_refl _) read c mem ascii)
    · cases read

end Punycode

/-! ## Labels -/

/-- **A character of a label's ASCII form** is a letter, a numeral or a hyphen, or one that the
label has in ASCII. -/
theorem of_mem_writeLabel {label text : List Char} (written : writeLabel label = some text) :
    ∀ c ∈ text, (c.isAlphanum = true ∨ c = '-') ∨ c ∈ label ∧ c.toNat < 0x80 := by
  rw [writeLabel] at written
  split at written
  · next plain =>
    obtain rfl := Option.some.inj written
    exact fun c mem => .inr ⟨mem, of_decide_eq_true (List.all_eq_true.mp plain c mem)⟩
  · split at written
    · cases written
    · obtain rfl := Option.some.inj written
      have marked : ∀ c ∈ marker, c.isAlphanum = true ∨ c = '-' :=
        List.all_iff_forall_prop.mp (by decide)
      refine List.forall_mem_append.mpr ⟨fun c mem => .inl (marked c mem),
        List.forall_mem_append.mpr ⟨List.forall_mem_append.mpr ⟨fun c mem => ?_, ?_⟩,
          fun c mem => .inl (.inl (Punycode.isAlphanum_writePoints _ _ _ _ _ c mem))⟩⟩
      · obtain ⟨own, ascii⟩ := List.mem_filter.mp mem
        exact .inr ⟨own, of_decide_eq_true ascii⟩
      · split
        · exact List.forall_mem_nil _
        · exact List.forall_mem_singleton.mpr (.inl (.inr rfl))

/-- A label stands for a text that has no character of ASCII that the label has not. -/
theorem mem_of_mem_readLabel {label text : List Char} (read : readLabel label = some text) :
    ∀ c ∈ text, c.toNat < 0x80 → c ∈ label := by
  rw [readLabel] at read
  split at read
  · split at read
    · cases read
    · split at read
      · cases read
      · next decoded =>
        split at read
        · cases read
        · obtain rfl := Option.some.inj read
          exact fun c mem ascii =>
            List.mem_of_mem_drop (Punycode.mem_of_mem_decode decoded c mem ascii)
  · obtain rfl := Option.some.inj read
    exact fun c mem _ => mem

/-! ## Names -/

/-- What each step of a traversal makes sure of holds for all results. -/
theorem exists_of_mem_mapM {f : List Char → Option (List Char)} {labels texts : List (List Char)}
    (done : labels.mapM f = some texts) :
    ∀ text ∈ texts, ∃ label ∈ labels, f label = some text := by
  induction labels generalizing texts with
  | nil =>
    obtain rfl := Option.some.inj done
    exact List.forall_mem_nil _
  | cons label labels ih =>
    rw [List.mapM_cons] at done
    obtain ⟨text, here, done⟩ := Option.bind_eq_some_iff.mp done
    obtain ⟨rest, behind, done⟩ := Option.bind_eq_some_iff.mp done
    obtain rfl := Option.some.inj done
    refine List.forall_mem_cons.mpr ⟨⟨label, List.mem_cons_self, here⟩, fun text mem => ?_⟩
    obtain ⟨other, member, read⟩ := ih behind text mem
    exact ⟨other, List.mem_cons_of_mem _ member, read⟩

/-- The ASCII form of a name is the dots and the written labels of its canonical form. -/
theorem of_mem_toAscii? {name text : List Char} (read : toAscii? name = some text) :
    ∃ canonical, canonical? name = some canonical ∧ ∀ c ∈ text, c = '.' ∨
      ∃ part ∈ canonical.splitOn '.', ∃ label written, readLabel part = some label ∧
        writeLabel label = some written ∧ c ∈ written := by
  simp only [toAscii?, Option.bind_eq_bind, Option.bind_eq_some_iff] at read
  obtain ⟨canonical, mapped, labels, parts, read⟩ := read
  refine ⟨canonical, mapped, ?_⟩
  split at read
  · cases read
  · obtain ⟨texts, each, read⟩ := Option.bind_eq_some_iff.mp read
    split at read
    · cases read
    · obtain rfl := Option.some.inj read
      intro c mem
      rw [joinLabels_eq_intercalate] at mem
      rcases mem_intercalate mem with dot | ⟨written, member, own⟩
      · exact .inl dot
      · obtain ⟨label, member, writes⟩ := exists_of_mem_mapM each written member
        obtain ⟨part, member, reads⟩ := exists_of_mem_mapM parts label member
        exact .inr ⟨part, member, label, written, reads, writes, own⟩

/-- **The ASCII form of a domain name is in ASCII.** -/
theorem ascii_of_toAscii? {name text : List Char} (read : toAscii? name = some text) :
    ∀ c ∈ text, c.toNat < 0x80 := by
  obtain ⟨_, _, each⟩ := of_mem_toAscii? read
  intro c mem
  rcases each c mem with rfl | ⟨_, _, _, _, _, writes, own⟩
  · decide
  · rcases of_mem_writeLabel writes c own with (alphanum | rfl) | ⟨_, ascii⟩
    · exact ascii_of_isAlphanum alphanum
    · decide
    · exact ascii

/-- A name in ASCII is made small. -/
theorem mapText_of_ascii {name : List Char} (ascii : ∀ c ∈ name, c.toNat < 0x80) :
    mapText name = some (name.map Char.toLower) := by
  induction name with
  | nil => rfl
  | cons c cs ih =>
    obtain ⟨here, behind⟩ := List.forall_mem_cons.mp ascii
    rw [mapText, mapChar, if_pos here, ih behind]
    rfl

/-- And it has no other form. -/
theorem canonical?_of_ascii {name : List Char} (ascii : ∀ c ∈ name, c.toNat < 0x80) :
    canonical? name = some (name.map Char.toLower) := by
  have small : (name.map Char.toLower).all (·.toNat < 0x80) = true := by
    rw [List.all_map, List.all_eq_true]
    exact fun c mem => of_ascii (P := fun c => decide (c.toLower.toNat < 0x80) = true) (by decide)
      (ascii c mem)
  rw [canonical?, mapText_of_ascii ascii, Option.map_some, Unicode.normalForm, if_pos small]

/-- **A name in ASCII gives its ASCII form no character** that is not a letter, a numeral, a hyphen
or a dot. -/
theorem mem_of_mem_toAscii? {name text : List Char} (ascii : ∀ c ∈ name, c.toNat < 0x80)
    (read : toAscii? name = some text) {c : Char} (mem : c ∈ text) (letter : c.isAlphanum = false)
    (sign : c ≠ '-' ∧ c ≠ '.') : c ∈ name := by
  obtain ⟨canonical, mapped, each⟩ := of_mem_toAscii? read
  obtain rfl := Option.some.inj ((canonical?_of_ascii ascii).symm.trans mapped)
  rcases each c mem with dot | ⟨part, member, label, written, reads, writes, own⟩
  · exact absurd dot sign.2
  · rcases of_mem_writeLabel writes c own with (alphanum | hyphen) | ⟨held, small⟩
    · rw [letter] at alphanum
      cases alphanum
    · exact absurd hyphen sign.1
    · have inPart := mem_of_mem_readLabel reads c held small
      obtain ⟨d, inName, rfl⟩ := List.mem_map.mp (of_mem_splitOnP member c inPart).1
      have kept : d.toLower.isAlphanum = false → d.toLower = d :=
        of_ascii (P := fun d => d.toLower.isAlphanum = false → d.toLower = d) (by decide)
          (ascii d inName)
      rwa [kept letter]

end ProxyAutoConfig.Idna
