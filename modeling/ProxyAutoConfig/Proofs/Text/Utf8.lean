import ProxyAutoConfig.Text.Utf8

/-!
# Text and its bytes

Reading bytes and writing them are inverse to each other: bytes that spell a text are the bytes
that the text is written in (`decode_eq_ok`). Between the two stands `Form`, the shapes that the
bytes of a number have. A character is written in the form of its number, whatever is read as a
character has a form, and no number has two.
-/

namespace ProxyAutoConfig.Text.Utf8

/-- A second byte that may follow a first one of three or four. -/
def FitsSecond (b c : UInt8) : Prop :=
  0x80 ≤ c.toNat ∧ c.toNat ≤ 0xBF ∧ (b.toNat = 0xE0 → 0xA0 ≤ c.toNat) ∧
    (b.toNat = 0xED → c.toNat ≤ 0x9F) ∧ (b.toNat = 0xF0 → 0x90 ≤ c.toNat) ∧
    (b.toNat = 0xF4 → c.toNat ≤ 0x8F)

/-- **The forms of a number**: one byte up to four, by the size of the number. -/
inductive Form : List UInt8 → Nat → Prop
  | one {b : UInt8} : b.toNat < 0x80 → Form [b] b.toNat
  | two {b c : UInt8} : 0xC2 ≤ b.toNat → b.toNat < 0xE0 → FitsSecond b c →
      Form [b, c] (b.toNat % 0x20 * 0x40 + tailBits c)
  | three {b c d : UInt8} : 0xE0 ≤ b.toNat → b.toNat < 0xF0 → FitsSecond b c →
      isTail d = true → Form [b, c, d] (b.toNat % 0x10 * 0x1000 + tailBits c * 0x40 + tailBits d)
  | four {b c d e : UInt8} : 0xF0 ≤ b.toNat → b.toNat ≤ 0xF4 → FitsSecond b c →
      isTail d = true → isTail e = true →
      Form [b, c, d, e]
        (b.toNat % 8 * 0x40000 + tailBits c * 0x1000 + tailBits d * 0x40 + tailBits e)

/-! ## One character -/

/-- A byte goes on with a character when it lies in one range. -/
theorem isTail_iff {b : UInt8} : isTail b = true ↔ 0x80 ≤ b.toNat ∧ b.toNat ≤ 0xBF := by
  simp only [isTail, Bool.and_eq_true, decide_eq_true_eq, UInt8.le_iff_toNat_le,
    UInt8.reduceToNat]

/-- The second byte is looked for in the range that the first one gives. -/
theorem fitsSecond_iff {b c : UInt8} :
    (c < (secondRange b).1 || (secondRange b).2 < c) = false ↔ FitsSecond b c := by
  simp only [FitsSecond, secondRange, beq_iff_eq, ← UInt8.toNat_inj, UInt8.lt_iff_toNat_lt,
    Bool.or_eq_false_iff, decide_eq_false_iff_not, UInt8.reduceToNat]
  split
  · simp only [UInt8.reduceToNat]; omega
  · split
    · simp only [UInt8.reduceToNat]; omega
    · split
      · simp only [UInt8.reduceToNat]; omega
      · split <;> simp only [UInt8.reduceToNat] <;> omega

/-- The number of a character is none of a surrogate. -/
theorem toNat_valid (c : Char) : c.toNat < 0xD800 ∨ 0xDFFF < c.toNat ∧ c.toNat < 0x110000 :=
  c.valid

/-- A small number is the byte that it is made to. -/
theorem toNat_toUInt8 {n : Nat} (small : n < 0x100) : n.toUInt8.toNat = n :=
  Nat.mod_eq_of_lt small

/-- **A character is written in the form of its number.** -/
theorem form_encodeChar (c : Char) : Form (encodeChar c) c.toNat := by
  have valid := toNat_valid c
  simp only [encodeChar]
  generalize c.toNat = n at valid
  split
  · next small =>
    have hb := toNat_toUInt8 (show n < 0x100 by omega)
    have form : Form [n.toUInt8] n.toUInt8.toNat := .one (by omega)
    rwa [hb] at form
  · split
    · next small =>
      have hb := toNat_toUInt8 (show 0xC0 + n / 0x40 < 0x100 by omega)
      have hc := toNat_toUInt8 (show 0x80 + n % 0x40 < 0x100 by omega)
      refine Eq.subst ?_ (Form.two (b := (0xC0 + n / 0x40).toUInt8) (by omega) (by omega)
        (show FitsSecond _ (0x80 + n % 0x40).toUInt8 by simp only [FitsSecond, hb, hc]; omega))
      simp only [tailBits, hb, hc]
      omega
    · split
      · next small =>
        have hb := toNat_toUInt8 (show 0xE0 + n / 0x1000 < 0x100 by omega)
        have hc := toNat_toUInt8 (show 0x80 + n / 0x40 % 0x40 < 0x100 by omega)
        have hd := toNat_toUInt8 (show 0x80 + n % 0x40 < 0x100 by omega)
        refine Eq.subst ?_ (Form.three (b := (0xE0 + n / 0x1000).toUInt8) (by omega) (by omega)
          (show FitsSecond _ (0x80 + n / 0x40 % 0x40).toUInt8 by
            simp only [FitsSecond, hb, hc]; omega)
          (show isTail (0x80 + n % 0x40).toUInt8 = true by rw [isTail_iff, hd]; omega))
        simp only [tailBits, hb, hc, hd]
        omega
      · have hb := toNat_toUInt8 (show 0xF0 + n / 0x40000 < 0x100 by omega)
        have hc := toNat_toUInt8 (show 0x80 + n / 0x1000 % 0x40 < 0x100 by omega)
        have hd := toNat_toUInt8 (show 0x80 + n / 0x40 % 0x40 < 0x100 by omega)
        have he := toNat_toUInt8 (show 0x80 + n % 0x40 < 0x100 by omega)
        refine Eq.subst ?_ (Form.four (b := (0xF0 + n / 0x40000).toUInt8) (by omega) (by omega)
          (show FitsSecond _ (0x80 + n / 0x1000 % 0x40).toUInt8 by
            simp only [FitsSecond, hb, hc]; omega)
          (show isTail (0x80 + n / 0x40 % 0x40).toUInt8 = true by rw [isTail_iff, hd]; omega)
          (show isTail (0x80 + n % 0x40).toUInt8 = true by rw [isTail_iff, he]; omega))
        simp only [tailBits, hb, hc, hd, he]
        omega

/-- A first byte of two or more bytes is no byte that begins no character. -/
theorem lead_of_range {b : UInt8} (low : 0xC2 ≤ b.toNat) (high : b.toNat ≤ 0xF4) :
    (decide (b.toNat < 0xC2) || decide (0xF4 < b.toNat)) = false := by
  rw [Bool.or_eq_false_iff, decide_eq_false_iff_not, decide_eq_false_iff_not]
  omega

/-- Bytes in a form are read as the character of their number. -/
theorem chunk_of_form {b : UInt8} {bs : List UInt8} {n : Nat} (form : Form (b :: bs) n)
    (rest : List UInt8) : chunk b (bs ++ rest) = .char (Char.ofNat n) (bs.length + 1) := by
  cases form with
  | one small => simp only [chunk, if_pos small, List.length_nil, Nat.zero_add]
  | two low high second =>
    have h1 : ¬ b.toNat < 0x80 := by omega
    have h2 := lead_of_range (show 0xC2 ≤ b.toNat by omega) (show b.toNat ≤ 0xF4 by omega)
    simp only [chunk, if_neg h1, h2, List.cons_append, List.nil_append, fitsSecond_iff.mpr second,
      Bool.false_eq_true, if_false, if_pos high, List.length_singleton]
  | three low high second third =>
    have h1 : ¬ b.toNat < 0x80 := by omega
    have h2 := lead_of_range (show 0xC2 ≤ b.toNat by omega) (show b.toNat ≤ 0xF4 by omega)
    have h3 : ¬ b.toNat < 0xE0 := by omega
    simp only [chunk, if_neg h1, h2, List.cons_append, List.nil_append, fitsSecond_iff.mpr second,
      Bool.false_eq_true, if_false, if_neg h3, third, Bool.not_true, if_pos high, List.length_cons,
      List.length_nil, Nat.zero_add, Nat.reduceAdd]
  | four low high second third fourth =>
    have h1 : ¬ b.toNat < 0x80 := by omega
    have h2 := lead_of_range (show 0xC2 ≤ b.toNat by omega) (show b.toNat ≤ 0xF4 by omega)
    have h3 : ¬ b.toNat < 0xE0 := by omega
    have h4 : ¬ b.toNat < 0xF0 := by omega
    simp only [chunk, if_neg h1, h2, List.cons_append, List.nil_append, fitsSecond_iff.mpr second,
      Bool.false_eq_true, if_false, if_neg h3, third, Bool.not_true, if_neg h4, fourth,
      List.length_cons, List.length_nil, Nat.zero_add, Nat.reduceAdd]

/-- What is read as a character stands in the form of its number. -/
theorem form_of_chunk {b : UInt8} {rest : List UInt8} {c : Char} {size : Nat}
    (read : chunk b rest = .char c size) :
    ∃ bs after n, rest = bs ++ after ∧ size = bs.length + 1 ∧ Form (b :: bs) n ∧
      c = Char.ofNat n := by
  simp only [chunk] at read
  split at read
  · next small =>
    cases read
    exact ⟨[], rest, _, rfl, rfl, .one small, rfl⟩
  · split at read
    · cases read
    · next lead =>
      simp only [Bool.or_eq_true, decide_eq_true_eq, not_or, Nat.not_lt] at lead
      split at read
      · cases read
      · next second rest =>
        split at read
        · cases read
        · next fits =>
          have fits := fitsSecond_iff.mp (Bool.eq_false_iff.mpr fits)
          split at read
          · next two =>
            cases read
            exact ⟨[second], rest, _, rfl, rfl, .two lead.1 two fits, rfl⟩
          · next more =>
            split at read
            · cases read
            · next third rest =>
              split at read
              · cases read
              · next tail =>
                have tail : isTail third = true := by simpa using tail
                split at read
                · next three =>
                  cases read
                  exact ⟨[second, third], rest, _, rfl, rfl,
                    .three (Nat.le_of_not_lt more) three fits tail, rfl⟩
                · next more =>
                  split at read
                  · cases read
                  · next fourth rest =>
                    split at read
                    · cases read
                    · next tail' =>
                      have tail' : isTail fourth = true := by simpa using tail'
                      cases read
                      exact ⟨[second, third, fourth], rest, _, rfl, rfl,
                        .four (Nat.le_of_not_lt more) lead.2 fits tail tail', rfl⟩

/-- The bytes of a form behind the first one are none of ASCII. -/
theorem high_of_form {b : UInt8} {bs : List UInt8} {n : Nat} (form : Form (b :: bs) n) :
    ∀ t ∈ bs, 0x80 ≤ t.toNat := by
  cases form with
  | one small => exact List.forall_mem_nil _
  | two low high second => exact List.forall_mem_singleton.mpr second.1
  | three low high second third =>
    exact List.forall_mem_cons.mpr
      ⟨second.1, List.forall_mem_singleton.mpr (isTail_iff.mp third).1⟩
  | four low high second third fourth =>
    exact List.forall_mem_cons.mpr ⟨second.1, List.forall_mem_cons.mpr
      ⟨(isTail_iff.mp third).1, List.forall_mem_singleton.mpr (isTail_iff.mp fourth).1⟩⟩

/-- Where bytes begin no character, those given up behind the first one are none of ASCII. -/
theorem high_of_broken {b : UInt8} {rest : List UInt8} {size : Nat}
    (read : chunk b rest = .broken size) :
    ∃ bs after, rest = bs ++ after ∧ size = bs.length + 1 ∧ ∀ t ∈ bs, 0x80 ≤ t.toNat := by
  simp only [chunk] at read
  split at read
  · cases read
  · split at read
    · cases read
      exact ⟨[], rest, rfl, rfl, List.forall_mem_nil _⟩
    · split at read
      · cases read
      · next second rest =>
        split at read
        · cases read
          exact ⟨[], second :: rest, rfl, rfl, List.forall_mem_nil _⟩
        · next fits =>
          have fits := fitsSecond_iff.mp (Bool.eq_false_iff.mpr fits)
          split at read
          · cases read
          · split at read
            · cases read
            · next third rest =>
              split at read
              · cases read
                exact ⟨[second], third :: rest, rfl, rfl, List.forall_mem_singleton.mpr fits.1⟩
              · next tail =>
                have tail : isTail third = true := by simpa using tail
                split at read
                · cases read
                · split at read
                  · cases read
                  · next fourth rest =>
                    split at read
                    · cases read
                      exact ⟨[second, third], fourth :: rest, rfl, rfl, List.forall_mem_cons.mpr
                        ⟨fits.1, List.forall_mem_singleton.mpr (isTail_iff.mp tail).1⟩⟩
                    · cases read

/-- Where the input ends inside a character, no byte behind the first one is of ASCII. -/
theorem high_of_cut {b : UInt8} {rest : List UInt8} (read : chunk b rest = .cut) :
    ∀ t ∈ rest, 0x80 ≤ t.toNat := by
  simp only [chunk] at read
  split at read
  · cases read
  · split at read
    · cases read
    · split at read
      · exact List.forall_mem_nil _
      · next second rest =>
        split at read
        · cases read
        · next fits =>
          have fits := fitsSecond_iff.mp (Bool.eq_false_iff.mpr fits)
          split at read
          · cases read
          · split at read
            · exact List.forall_mem_singleton.mpr fits.1
            · next third rest =>
              split at read
              · cases read
              · next tail =>
                have tail : isTail third = true := by simpa using tail
                split at read
                · cases read
                · split at read
                  · exact List.forall_mem_cons.mpr
                      ⟨fits.1, List.forall_mem_singleton.mpr (isTail_iff.mp tail).1⟩
                  · split at read <;> cases read

/-- A number that is none of a surrogate is the number of its character. -/
theorem toNat_ofNat {n : Nat} (valid : n < 0xD800 ∨ 0xDFFF < n ∧ n < 0x110000) :
    (Char.ofNat n).toNat = n := by
  rw [Char.ofNat, dif_pos valid]
  rfl

/-- **A number has one form**: the bytes that its character is written in. -/
theorem encodeChar_of_form {bs : List UInt8} {n : Nat} (form : Form bs n) :
    encodeChar (Char.ofNat n) = bs := by
  have byte : ∀ {n : Nat} {b : UInt8}, n = b.toNat → n.toUInt8 = b :=
    fun {n b} h => h ▸ UInt8.ofNat_toNat
  cases form with
  | @one b small =>
    rw [encodeChar, toNat_ofNat (by omega), if_pos small, byte rfl]
  | @two b c low high second =>
    obtain ⟨hc, hc', -⟩ := second
    simp only [tailBits]
    have h1 : ¬ b.toNat % 0x20 * 0x40 + c.toNat % 0x40 < 0x80 := by omega
    have h2 : b.toNat % 0x20 * 0x40 + c.toNat % 0x40 < 0x800 := by omega
    rw [encodeChar, toNat_ofNat (by omega), if_neg h1, if_pos h2,
      byte (b := b) (by omega), byte (b := c) (by omega)]
  | @three b c d low high second third =>
    obtain ⟨hc, hc', he0, hed, -, -⟩ := second
    obtain ⟨hd, hd'⟩ := isTail_iff.mp third
    simp only [tailBits]
    have h1 : ¬ b.toNat % 0x10 * 0x1000 + c.toNat % 0x40 * 0x40 + d.toNat % 0x40 < 0x80 := by omega
    have h2 : ¬ b.toNat % 0x10 * 0x1000 + c.toNat % 0x40 * 0x40 + d.toNat % 0x40 < 0x800 := by
      omega
    have h3 : b.toNat % 0x10 * 0x1000 + c.toNat % 0x40 * 0x40 + d.toNat % 0x40 < 0x10000 := by
      omega
    rw [encodeChar, toNat_ofNat (by omega), if_neg h1, if_neg h2, if_pos h3,
      byte (b := b) (by omega), byte (b := c) (by omega), byte (b := d) (by omega)]
  | @four b c d e low high second third fourth =>
    obtain ⟨hc, hc', -, -, hf0, hf4⟩ := second
    obtain ⟨hd, hd'⟩ := isTail_iff.mp third
    obtain ⟨he, he'⟩ := isTail_iff.mp fourth
    simp only [tailBits]
    have large : 0x10000 ≤ b.toNat % 8 * 0x40000 + c.toNat % 0x40 * 0x1000 +
        d.toNat % 0x40 * 0x40 + e.toNat % 0x40 := by omega
    rw [encodeChar, toNat_ofNat (by omega), if_neg (by omega), if_neg (by omega),
      if_neg (by omega), byte (b := b) (by omega), byte (b := c) (by omega),
      byte (b := d) (by omega), byte (b := e) (by omega)]

/-- **A character in front is read from the bytes that it is written in.** -/
theorem exists_chunk_encodeChar (c : Char) (rest : List UInt8) :
    ∃ b bs, encodeChar c = b :: bs ∧ chunk b (bs ++ rest) = .char c (bs.length + 1) := by
  obtain ⟨b, bs, written⟩ := List.exists_cons_of_ne_nil (encodeChar_ne_nil c)
  have form := form_encodeChar c
  rw [written] at form
  have read := chunk_of_form form rest
  rw [Char.ofNat_toNat] at read
  exact ⟨b, bs, written, read⟩

/-! ## A text -/

/-- A text is written character by character. -/
theorem encode_cons (c : Char) (cs : List Char) : encode (c :: cs) = encodeChar c ++ encode cs :=
  List.flatMap_cons

/-- A character takes at least one byte. -/
theorem length_encodeChar_pos (c : Char) : 0 < (encodeChar c).length :=
  List.length_pos_iff.mpr (encodeChar_ne_nil c)

/-- Bytes that an earlier character has taken are passed over. -/
theorem decodeFrom_append (position : Nat) (taken bytes : List UInt8) :
    decodeFrom position taken.length (taken ++ bytes) =
      decodeFrom (position + taken.length) 0 bytes := by
  induction taken generalizing position with
  | nil => rfl
  | cons b bs ih =>
    rw [List.length_cons, List.cons_append, decodeFrom, ih]
    congr 1
    omega

/-- A text is read from the bytes that it is written in, wherever they stand. -/
theorem decodeFrom_encode (position : Nat) (cs : List Char) :
    decodeFrom position 0 (encode cs) = .ok cs := by
  induction cs generalizing position with
  | nil => rfl
  | cons c cs ih =>
    obtain ⟨b, bs, written, read⟩ := exists_chunk_encodeChar c (encode cs)
    rw [encode_cons, written, List.cons_append, decodeFrom]
    simp only [read, Nat.add_sub_cancel, decodeFrom_append, ih]

/-- The bytes of a text in front of others are read first, and the others as they would be where
they stand. -/
theorem decodeFrom_encode_append (position : Nat) (cs : List Char) (bytes : List UInt8) :
    decodeFrom position 0 (encode cs ++ bytes) =
      (decodeFrom (position + (encode cs).length) 0 bytes).map (cs ++ ·) := by
  induction cs generalizing position with
  | nil =>
    show decodeFrom position 0 bytes = (decodeFrom position 0 bytes).map id
    cases decodeFrom position 0 bytes <;> rfl
  | cons c cs ih =>
    obtain ⟨b, bs, written, read⟩ := exists_chunk_encodeChar c (encode cs ++ bytes)
    have place : position + 1 + bs.length + (encode cs).length =
        position + (bs.length + (encode cs).length + 1) := by
      omega
    rw [encode_cons, written, List.cons_append, List.cons_append, List.append_assoc, decodeFrom]
    simp only [read, Nat.add_sub_cancel, decodeFrom_append, ih, List.length_cons,
      List.length_append, place]
    cases decodeFrom (position + (bs.length + (encode cs).length + 1)) 0 bytes <;> rfl

/-- Bytes from which a text is read are the ones that it is written in. -/
theorem eq_encode_of_decodeFrom {position : Nat} {bytes : List UInt8} {cs : List Char}
    (read : decodeFrom position 0 bytes = .ok cs) : bytes = encode cs := by
  induction h : bytes.length using Nat.strongRecOn generalizing position bytes cs with
  | ind n ih =>
    subst h
    cases bytes with
    | nil =>
      cases read
      rfl
    | cons b rest =>
      rw [decodeFrom] at read
      split at read
      · next c size front =>
        obtain ⟨bs, after, n, rfl, rfl, form, rfl⟩ := form_of_chunk front
        rw [Nat.add_sub_cancel, decodeFrom_append] at read
        split at read
        · next cs behind =>
          cases read
          have shorter : after.length < (b :: (bs ++ after)).length := by
            rw [List.length_cons, List.length_append]
            omega
          rw [encode_cons, encodeChar_of_form form, ← ih _ shorter behind rfl, List.cons_append]
        · cases read
      · cases read
      · cases read

/-- **Bytes spell a text when they are the bytes that it is written in**, and only then. -/
theorem decode_eq_ok {bytes : List UInt8} {cs : List Char} :
    decode bytes = .ok cs ↔ bytes = encode cs :=
  ⟨eq_encode_of_decodeFrom, fun h => h ▸ decodeFrom_encode 0 cs⟩

/-- A text in front of other bytes is read with them, if they can be read. -/
theorem toOption_decode_append (cs : List Char) (bytes : List UInt8) :
    (decode (encode cs ++ bytes)).toOption = (decode bytes).toOption.map (cs ++ ·) := by
  have anywhere : ∀ position,
      (decodeFrom position 0 bytes).toOption = (decode bytes).toOption := by
    intro position
    cases here : decode bytes with
    | ok ds => rw [decode_eq_ok.mp here, decodeFrom_encode]
    | error flaw =>
      cases there : decodeFrom position 0 bytes with
      | ok ds => rw [decode_eq_ok.mpr (eq_encode_of_decodeFrom there)] at here; cases here
      | error flaw' => rfl
  rw [decode, decodeFrom_encode_append, ← anywhere]
  cases decodeFrom (0 + (encode cs).length) 0 bytes <;> rfl

/-! ## A text with flaws made up for -/

/-- Bytes that an earlier character has taken are passed over. -/
theorem decodeLossyFrom_append (taken bytes : List UInt8) :
    decodeLossyFrom taken.length (taken ++ bytes) = decodeLossyFrom 0 bytes := by
  induction taken with
  | nil => rfl
  | cons b bs ih => rw [List.length_cons, List.cons_append, decodeLossyFrom, ih]

/-- There is no flaw in the bytes that a text is written in. -/
theorem decodeLossy_encode (cs : List Char) : decodeLossy (encode cs) = cs := by
  unfold decodeLossy
  induction cs with
  | nil => rfl
  | cons c cs ih =>
    obtain ⟨b, bs, written, read⟩ := exists_chunk_encodeChar c (encode cs)
    rw [encode_cons, written, List.cons_append, decodeLossyFrom]
    simp only [read, Nat.add_sub_cancel, decodeLossyFrom_append, ih]

/-- **A character of ASCII is never lost**, whatever flaws there are around its byte. -/
theorem mem_decodeLossy {c : Char} (ascii : c.toNat < 0x80) {bytes : List UInt8}
    (mem : c.toNat.toUInt8 ∈ bytes) : c ∈ decodeLossy bytes := by
  have value : c.toNat.toUInt8.toNat = c.toNat := toNat_toUInt8 (by omega)
  have notHigh : ∀ {bs : List UInt8}, (∀ t ∈ bs, 0x80 ≤ t.toNat) → c.toNat.toUInt8 ∉ bs := by
    intro bs high here
    have := high _ here
    omega
  unfold decodeLossy
  induction h : bytes.length using Nat.strongRecOn generalizing bytes with
  | ind n ih =>
    subst h
    cases bytes with
    | nil => cases mem
    | cons b rest =>
      by_cases here : b = c.toNat.toUInt8
      · subst here
        have read : chunk c.toNat.toUInt8 rest = .char c 1 := by
          simp only [chunk, value, if_pos ascii, Char.ofNat_toNat]
        rw [decodeLossyFrom]
        simp only [read]
        exact List.mem_cons_self
      · have behind : c.toNat.toUInt8 ∈ rest := by
          rcases List.mem_cons.mp mem with same | behind
          · exact absurd same.symm here
          · exact behind
        -- Whatever the chunk in front takes, the byte stands behind it.
        have further : ∀ {bs after : List UInt8}, rest = bs ++ after →
            (∀ t ∈ bs, 0x80 ≤ t.toNat) → c ∈ decodeLossyFrom bs.length rest := by
          rintro bs after rfl high
          rw [decodeLossyFrom_append]
          have there := (List.mem_append.mp behind).resolve_left (notHigh high)
          refine ih after.length ?_ there rfl
          rw [List.length_cons, List.length_append]
          omega
        rw [decodeLossyFrom]
        cases read : chunk b rest with
        | char d size =>
          obtain ⟨bs, after, n, split, rfl, form, rfl⟩ := form_of_chunk read
          exact List.mem_cons_of_mem _ (further split (high_of_form form))
        | broken size =>
          obtain ⟨bs, after, split, rfl, high⟩ := high_of_broken read
          exact List.mem_cons_of_mem _ (further split high)
        | cut => exact absurd behind (notHigh (high_of_cut read))

end ProxyAutoConfig.Text.Utf8
