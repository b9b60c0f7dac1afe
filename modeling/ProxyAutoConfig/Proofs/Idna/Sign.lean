import ProxyAutoConfig.Idna.Domain
import ProxyAutoConfig.Proofs.Text.Ascii
import ProxyAutoConfig.Proofs.Text.Cut
import ProxyAutoConfig.Proofs.Text.Percent

/-!
# Signs in domain names

A sign that no host name may hold is never lost on the way to the ASCII form of a name: it is
not mapped to anything else, it is joined with no mark, and the encoding of labels leaves it where
it stands. So a name that holds one has no ASCII form (`toAscii?_eq_none_of_isSign`), whatever
stands around the sign.

The percent sign is left out because it begins escapes, and two signs of comparison because they
are joined with marks: `<` under a stroke is another character, which host names may hold.
-/

namespace ProxyAutoConfig.Idna

open ProxyAutoConfig.Text ProxyAutoConfig.Unicode

/-- **A sign that no host name holds** and that stands for itself alone. -/
def isSign (c : Char) : Bool :=
  c.toNat < 0x80 && isRefusedInHost c && !(['%', '<', '>'].contains c)

variable {c : Char}

/-- Signs are in ASCII. -/
theorem ascii_of_isSign (sign : isSign c = true) : c.toNat < 0x80 := by
  simp only [isSign, Bool.and_eq_true, decide_eq_true_eq] at sign
  exact sign.1.1

/-- What holds for signs is settled by looking at all of them. -/
theorem of_isSign {P : Char → Prop}
    (each : ∀ n < 0x80, isSign (Char.ofNat n) = true → P (Char.ofNat n))
    (sign : isSign c = true) : P c :=
  of_ascii (P := fun c => isSign c = true → P c) each (ascii_of_isSign sign) sign

/-! ## Mapping and composing -/

/-- A sign is mapped to itself. -/
theorem mem_mapText (sign : isSign c = true) {name mapped : List Char} (mem : c ∈ name)
    (done : mapText name = some mapped) : c ∈ mapped := by
  induction name generalizing mapped with
  | nil => cases mem
  | cons d ds ih =>
    rw [mapText] at done
    cases hd : mapChar d with
    | none => rw [hd] at done; cases done
    | some here =>
      cases hds : mapText ds with
      | none => rw [hd, hds] at done; cases done
      | some behind =>
        rw [hd, hds] at done
        obtain rfl := Option.some.inj done
        rcases List.mem_cons.mp mem with rfl | mem
        · have same := of_isSign (P := fun c => c.toLower = c) (by decide) sign
          rw [mapChar, if_pos (ascii_of_isSign sign), same] at hd
          obtain rfl := Option.some.inj hd
          exact List.mem_append_left _ (List.mem_singleton_self c)
        · exact List.mem_append_right _ (ih mem hds)

/-- A character of ASCII is not taken apart. -/
theorem takeApartBy_of_ascii (parts? : Char → Option (List Char)) (ascii : c.toNat < 0x80)
    (depth : Nat) : takeApartBy parts? depth c = [c] := by
  cases depth with
  | zero => rfl
  | succ depth => rw [takeApartBy, if_pos ascii]

/-- So a sign stays in a text that is taken apart. -/
theorem mem_takeApart (sign : isSign c = true) {name : List Char} (mem : c ∈ name) :
    c ∈ name.flatMap takeApart := by
  refine List.mem_flatMap.mpr ⟨c, mem, ?_⟩
  rw [takeApart, takeApartBy_of_ascii _ (ascii_of_isSign sign)]
  exact List.mem_singleton_self c

/-- Sinking a mark loses no character. -/
theorem mem_sinkMark {d : Char} {ds : List Char} : c ∈ sinkMark d ds ↔ c = d ∨ c ∈ ds := by
  induction ds with
  | nil => exact List.mem_cons
  | cons e es ih =>
    rw [sinkMark]
    split
    · rw [List.mem_cons, ih, List.mem_cons]
      exact or_left_comm
    · exact List.mem_cons

/-- Ordering marks loses no character. -/
theorem mem_orderMarks {cs : List Char} : c ∈ orderMarks cs ↔ c ∈ cs := by
  induction cs with
  | nil => exact Iff.rfl
  | cons d ds ih =>
    rw [orderMarks]
    split
    · rw [List.mem_cons, List.mem_cons, ih]
    · rw [mem_sinkMark, List.mem_cons, ih]

/-- A sign is joined with no character, on neither side. -/
theorem join?_eq_none_of_isSign (sign : isSign c = true) (d : Char) :
    join? c d = none ∧ join? d c = none := by
  have ascii := ascii_of_isSign sign
  have bare := of_isSign (P := fun c => takesMarks c = false) (by decide) sign
  have noHangul : hangulJoin? c d = none ∧ hangulJoin? d c = none := by
    simp only [hangulJoin?]
    constructor <;>
    · rw [if_neg (by omega), if_neg (by omega)]
  have small : decide (0x80 ≤ c.toNat) = false := decide_eq_false (Nat.not_le.mpr ascii)
  constructor
  · simp only [join?, noHangul.1, bare, Bool.false_and, Bool.false_eq_true, if_false]
  · simp only [join?, noHangul.2, small, Bool.and_false, Bool.false_eq_true, if_false]

/-- **Composing leaves a sign where it is**, as the base, among the marks behind it, or further
on. -/
theorem mem_composeFrom (sign : isSign c = true) {base : Char} {kept rest : List Char}
    {last : Nat} (mem : c = base ∨ c ∈ kept ∨ c ∈ rest) :
    c ∈ composeFrom base kept last rest := by
  induction rest generalizing base kept last with
  | nil =>
    rw [composeFrom, List.mem_cons, List.mem_reverse]
    rcases mem with same | mem | mem
    · exact .inl same
    · exact .inr mem
    · cases mem
  | cons d ds ih =>
    rw [composeFrom]
    split
    · next composite joined =>
      -- The pair that was joined holds no sign, so the sign is one of the others.
      have pair : c ≠ base ∧ c ≠ d := by
        have apart := fun e => join?_eq_none_of_isSign sign e
        split at joined
        · constructor
          · rintro rfl
            rw [(apart d).1] at joined
            cases joined
          · rintro rfl
            rw [(apart base).2] at joined
            cases joined
        · cases joined
      rcases mem with same | mem | mem
      · exact absurd same pair.1
      · exact ih (.inr (.inl mem))
      · rcases List.mem_cons.mp mem with same | mem
        · exact absurd same pair.2
        · exact ih (.inr (.inr mem))
    · split
      · rw [List.mem_append, List.mem_cons, List.mem_reverse]
        rcases mem with same | mem | mem
        · exact .inl (.inl same)
        · exact .inl (.inr mem)
        · rcases List.mem_cons.mp mem with same | mem
          · exact .inr (ih (.inl same))
          · exact .inr (ih (.inr (.inr mem)))
      · rcases mem with same | mem | mem
        · exact ih (.inl same)
        · exact ih (.inr (.inl (List.mem_cons_of_mem _ mem)))
        · rcases List.mem_cons.mp mem with same | mem
          · exact ih (.inr (.inl (List.mem_cons.mpr (.inl same))))
          · exact ih (.inr (.inr mem))

/-- **A sign stands in the normal form too.** -/
theorem mem_normalForm (sign : isSign c = true) {name : List Char} (mem : c ∈ name) :
    c ∈ normalForm name := by
  rw [normalForm]
  split
  · exact mem
  · have ordered := mem_orderMarks.mpr (mem_takeApart sign mem)
    split
    · next nothing =>
      rw [nothing] at ordered
      cases ordered
    · next d ds front =>
      rw [front] at ordered
      rcases List.mem_cons.mp ordered with same | behind
      · exact mem_composeFrom sign (.inl same)
      · exact mem_composeFrom sign (.inr (.inr behind))

/-! ## Labels -/

/-- A number is read from digits alone. -/
theorem mem_of_readNumber (digitless : Punycode.value? c = none) {bias place weight n : Nat}
    {cs rest : List Char} (read : Punycode.readNumber bias place weight cs = some (n, rest))
    (mem : c ∈ cs) : c ∈ rest := by
  induction cs generalizing place weight n with
  | nil => cases mem
  | cons d ds ih =>
    rw [Punycode.readNumber] at read
    cases hd : Punycode.value? d with
    | none =>
      rw [hd] at read
      cases read
    | some value =>
      have behind : c ∈ ds := by
        rcases List.mem_cons.mp mem with rfl | mem
        · rw [digitless] at hd
          cases hd
        · exact mem
      simp only [hd, Option.bind_eq_bind, Option.bind_some] at read
      split at read
      · cases read
      · split at read
        · obtain ⟨-, rfl⟩ := Prod.mk.inj (Option.some.inj read)
          exact behind
        · split at read
          · cases read
          · obtain ⟨⟨m, more⟩, inner, same⟩ := Option.bind_eq_some_iff.mp read
            obtain ⟨-, rfl⟩ := Prod.mk.inj (Option.some.inj same)
            exact ih inner behind

/-- Insertions are told by digits alone, and they take nothing away. -/
theorem mem_insertAll (digitless : Punycode.value? c = none) {cs : List Char} :
    ∀ {done text : List Char} {place point bias : Nat} {first : Bool},
      Punycode.insertAll done place point bias first cs = some text → c ∈ done ∨ c ∈ cs →
        c ∈ text := by
  induction h : cs.length using Nat.strongRecOn generalizing cs with
  | ind n ih =>
    subst h
    intro done text place point bias first inserted mem
    cases cs with
    | nil =>
      rw [Punycode.insertAll] at inserted
      obtain rfl := Option.some.inj inserted
      rcases mem with mem | mem
      · exact mem
      · cases mem
    | cons d ds =>
      rw [Punycode.insertAll] at inserted
      split at inserted
      · cases inserted
      · next delta rest read =>
        simp only at inserted
        split at inserted
        · have shorter := Punycode.length_of_readNumber read
          refine ih rest.length shorter rfl inserted ?_
          rcases mem with mem | mem
          · refine .inl ((List.mem_insertIdx ?_).mpr (.inr mem))
            exact Nat.le_of_lt_succ (Nat.mod_lt _ (Nat.succ_pos _))
          · exact .inr (mem_of_readNumber digitless read mem)
        · cases inserted

/-- A label consists of the digits at its end and what stands in front of the last hyphen. -/
theorem eq_front_or_digits (label : List Char) :
    let digits := (label.reverse.takeWhile (· ≠ '-')).reverse
    label = digits ∨ label = label.take (label.length - digits.length - 1) ++ '-' :: digits := by
  intro digits
  have parts := congrArg List.reverse
    (List.takeWhile_append_dropWhile (p := fun c => decide (c ≠ '-')) (l := label.reverse))
  rw [List.reverse_append, List.reverse_reverse] at parts
  cases behind : label.reverse.dropWhile fun c => decide (c ≠ '-') with
  | nil =>
    rw [behind] at parts
    exact .inl parts.symm
  | cons d ds =>
    have hyphen : d = '-' := by
      have stop := List.head?_dropWhile_not (fun c => decide (c ≠ '-')) label.reverse
      rw [behind] at stop
      simpa using stop
    subst hyphen
    rw [behind, List.reverse_cons, List.append_assoc] at parts
    have whole : label = ds.reverse ++ '-' :: digits := parts.symm
    right
    have front : label.take (label.length - digits.length - 1) = ds.reverse := by
      have length : label.length - digits.length - 1 = ds.reverse.length := by
        have := congrArg List.length whole
        simp only [List.length_append, List.length_cons] at this
        omega
      rw [length, whole, List.take_left]
    rw [front]
    exact whole

/-- A label is read with all its characters but digits and hyphens. -/
theorem mem_decode (digitless : Punycode.value? c = none) (hyphen : c ≠ '-')
    {label text : List Char} (read : Punycode.decode label = some text) (mem : c ∈ label) :
    c ∈ text := by
  simp only [Punycode.decode] at read
  split at read
  · cases read
  · split at read
    · refine mem_insertAll digitless read ?_
      rcases eq_front_or_digits label with whole | whole
      · exact .inr (whole ▸ mem)
      · rw [whole] at mem
        rcases List.mem_append.mp mem with front | back
        · exact .inl front
        · rcases List.mem_cons.mp back with same | digit
          · exact absurd same hyphen
          · exact .inr digit
    · cases read

/-- **A sign stands in what a label is read as.** -/
theorem mem_readLabel (sign : isSign c = true) {label text : List Char}
    (read : readLabel label = some text) (mem : c ∈ label) : c ∈ text := by
  obtain ⟨digitless, hyphen, unmarked⟩ := of_isSign
    (P := fun c => Punycode.value? c = none ∧ c ≠ '-' ∧ c ∉ marker) (by decide) sign
  rw [readLabel] at read
  split at read
  · next marked =>
    obtain ⟨rest, rfl⟩ := List.isPrefixOf_iff_prefix.mp marked
    have behind : c ∈ (marker ++ rest).drop 4 := by
      rcases List.mem_append.mp mem with front | back
      · exact absurd front unmarked
      · exact back
    split at read
    · cases read
    · split at read
      · cases read
      · next inner decoded =>
        split at read
        · cases read
        · obtain rfl := Option.some.inj read
          exact mem_decode digitless hyphen decoded behind
  · exact Option.some.inj read ▸ mem

/-- A sign stands in the ASCII form of a label. -/
theorem mem_writeLabel (sign : isSign c = true) {label text : List Char}
    (written : writeLabel label = some text) (mem : c ∈ label) : c ∈ text := by
  rw [writeLabel] at written
  split at written
  · exact Option.some.inj written ▸ mem
  · split at written
    · cases written
    · obtain rfl := Option.some.inj written
      have basic : c ∈ label.filter (·.toNat < 0x80) :=
        List.mem_filter.mpr ⟨mem, decide_eq_true (ascii_of_isSign sign)⟩
      exact List.mem_append_right _ (List.mem_append_left _ (List.mem_append_left _ basic))

/-! ## Names -/

/-- Whatever every label keeps stands in the results of a traversal. -/
theorem exists_mem_mapM {f : List Char → Option (List Char)}
    (keeps : ∀ label text, f label = some text → c ∈ label → c ∈ text)
    {labels texts : List (List Char)} (done : labels.mapM f = some texts)
    (mem : ∃ label ∈ labels, c ∈ label) : ∃ text ∈ texts, c ∈ text := by
  induction labels generalizing texts with
  | nil =>
    obtain ⟨_, none, _⟩ := mem
    cases none
  | cons label labels ih =>
    rw [List.mapM_cons] at done
    obtain ⟨text, here, done⟩ := Option.bind_eq_some_iff.mp done
    obtain ⟨rest, behind, done⟩ := Option.bind_eq_some_iff.mp done
    obtain rfl := Option.some.inj done
    obtain ⟨found, member, hc⟩ := mem
    rcases List.mem_cons.mp member with rfl | member
    · exact ⟨text, List.mem_cons_self, keeps _ _ here hc⟩
    · obtain ⟨other, within, hc⟩ := ih behind ⟨found, member, hc⟩
      exact ⟨other, List.mem_cons_of_mem _ within, hc⟩

/-- Every character of a label stands in the name. -/
theorem mem_joinLabels {labels : List (List Char)} (mem : ∃ label ∈ labels, c ∈ label) :
    c ∈ joinLabels labels := by
  induction labels with
  | nil =>
    obtain ⟨_, none, _⟩ := mem
    cases none
  | cons label labels ih =>
    obtain ⟨found, member, hc⟩ := mem
    cases labels with
    | nil =>
      obtain rfl := List.mem_singleton.mp member
      exact hc
    | cons next rest =>
      rw [joinLabels]
      · rcases List.mem_cons.mp member with rfl | member
        · exact List.mem_append_left _ hc
        · exact List.mem_append_right _ (List.mem_cons_of_mem _ (ih ⟨found, member, hc⟩))
      · exact List.cons_ne_nil _ _

/-- **A name that holds a sign has no ASCII form.** -/
theorem toAscii?_eq_none_of_isSign (sign : isSign c = true) {name : List Char} (mem : c ∈ name) :
    toAscii? name = none := by
  rw [Option.eq_none_iff_forall_ne_some]
  intro text read
  have allowed := not_isRefusedInHost_of_toAscii? read c
  obtain ⟨refused, dot⟩ := of_isSign (P := fun c => isRefusedInHost c = true ∧ c ≠ '.')
    (by decide) sign
  suffices stays : c ∈ text by
    rw [allowed stays] at refused
    cases refused
  simp only [toAscii?, canonical?, Option.bind_eq_bind, Option.bind_eq_some_iff,
    Option.map_eq_some_iff] at read
  obtain ⟨_, ⟨mapped, hm, rfl⟩, labels, hl, read⟩ := read
  have kept := exists_mem_mapM (fun _ _ => mem_readLabel sign) hl
    (exists_mem_splitOn dot (mem_normalForm sign (mem_mapText sign mem hm)))
  split at read
  · cases read
  · obtain ⟨written, hw, read⟩ := Option.bind_eq_some_iff.mp read
    split at read
    · cases read
    · obtain rfl := Option.some.inj read
      exact mem_joinLabels (exists_mem_mapM (fun _ _ => mem_writeLabel sign) hw kept)

end ProxyAutoConfig.Idna
