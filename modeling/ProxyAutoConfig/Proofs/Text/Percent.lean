import ProxyAutoConfig.Proofs.Text.Ascii
import ProxyAutoConfig.Proofs.Text.Utf8
import ProxyAutoConfig.Text.Percent

/-!
# Encoding and decoding with percent signs

What is reserved in the parts of a URL does not include the percent sign, so a text with an escape of
its own is encoded with the escape left as it stands, and decoding takes it for one that encoding has
made. Every other text comes back: `decodeText_encode` tells the two apart. Where the percent sign is
reserved as well, all texts come back (`decode_encode_of_reserved`).
-/

namespace ProxyAutoConfig.Text.Percent

/-- A percent sign and two hexadecimal digits stand in front. -/
def escapeInFront : List Char → Bool
  | '%' :: a :: b :: _ => (hexValue? a).isSome && (hexValue? b).isSome
  | _ => false

/-- **An escape stands somewhere in the text.** -/
def holdsEscape : List Char → Bool
  | [] => false
  | c :: cs => escapeInFront (c :: cs) || holdsEscape cs

/-- **A text that needs no encoding**: it is in ASCII, and nothing in it is reserved. -/
def IsEncoded (reserved : Char → Bool) (text : String) : Prop :=
  ∀ c ∈ text.toList, c.toNat < 0x80 ∧ reserved c = false

/-- **A set leaves escapes alone**: it holds neither the percent sign nor a hexadecimal digit. -/
structure KeepsEscapes (reserved : Char → Bool) : Prop where
  percent : reserved '%' = false
  digit : ∀ c, (hexValue? c).isSome = true → reserved c = false

/-! ## Digits -/

/-- A digit of an escape is read as its value. -/
theorem hexValue?_hexDigit : ∀ n < 0x10, hexValue? (hexDigit n) = some n := by
  decide

/-- Hexadecimal digits are in ASCII. -/
theorem ascii_of_hexValue? {c : Char} (digit : (hexValue? c).isSome = true) : c.toNat < 0x80 := by
  unfold hexValue? at digit
  have bound : ∀ {d : Char}, c ≤ d → d.toNat < 0x80 → c.toNat < 0x80 :=
    fun le lt => Nat.lt_of_le_of_lt (Char.le_def.mp le) lt
  split at digit
  · next range => exact bound range.2 (by decide)
  · split at digit
    · next range => exact bound range.2 (by decide)
    · split at digit
      · next range => exact bound range.2 (by decide)
      · cases digit

/-- Whether a set leaves escapes alone is settled by looking at ASCII. -/
theorem keepsEscapes_of_ascii {reserved : Char → Bool} (percent : reserved '%' = false)
    (each : ∀ n < 0x80, (hexValue? (Char.ofNat n)).isSome = true →
      reserved (Char.ofNat n) = false) : KeepsEscapes reserved where
  percent := percent
  digit _ digit := of_ascii (P := fun c => (hexValue? c).isSome = true → reserved c = false)
    each (ascii_of_hexValue? digit) digit

/-- What is reserved in a user name leaves escapes alone. -/
theorem keepsEscapes_userinfo : KeepsEscapes isUserinfoReserved :=
  keepsEscapes_of_ascii (by decide) (by decide)

/-- So does what is reserved in a path. -/
theorem keepsEscapes_path : KeepsEscapes isPathReserved :=
  keepsEscapes_of_ascii (by decide) (by decide)

/-- So do control characters. -/
theorem keepsEscapes_control : KeepsEscapes isControl :=
  keepsEscapes_of_ascii (by decide) (by decide)

/-- And so does what is reserved in a query. -/
theorem keepsEscapes_query (special : Bool) :
    KeepsEscapes (if special then isSpecialQueryReserved else isQueryReserved) := by
  cases special <;> exact keepsEscapes_of_ascii (by decide) (by decide)

/-! ## Decoding one character -/

/-- An escape is decoded as its byte. -/
theorem decode_escape {a b : Char} {m n : Nat} (ha : hexValue? a = some m)
    (hb : hexValue? b = some n) (rest : List Char) :
    decode ('%' :: a :: b :: rest) = (m * 0x10 + n).toUInt8 :: decode rest := by
  simp only [decode, ha, hb]

/-- Every other character is decoded as its own bytes. -/
theorem decode_cons {c : Char} {cs : List Char} (plain : escapeInFront (c :: cs) = false) :
    decode (c :: cs) = Utf8.encodeChar c ++ decode cs := by
  rw [decode.eq_def]
  split
  · next h => cases h
  · next a b rest h =>
    cases h
    split
    · next ha hb =>
      simp only [escapeInFront, ha, hb, Option.isSome_some, Bool.and_self, reduceCtorEq] at plain
    · rfl
  · next h =>
    cases h
    rfl

/-- An escape in front is a percent sign and two digits. -/
theorem exists_of_escapeInFront {c : Char} {cs : List Char}
    (front : escapeInFront (c :: cs) = true) :
    ∃ a b rest m n, c = '%' ∧ cs = a :: b :: rest ∧ hexValue? a = some m ∧
      hexValue? b = some n := by
  unfold escapeInFront at front
  split at front
  · next a b rest h =>
    obtain ⟨rfl, rfl⟩ := List.cons.inj h
    obtain ⟨ha, hb⟩ := Bool.and_eq_true_iff.mp front
    obtain ⟨m, hm⟩ := Option.isSome_iff_exists.mp ha
    obtain ⟨n, hn⟩ := Option.isSome_iff_exists.mp hb
    exact ⟨a, b, rest, m, n, rfl, rfl, hm, hn⟩
  · cases front

/-- A text without an escape is decoded as its own bytes. -/
theorem decode_of_holdsEscape_eq_false {cs : List Char} (free : holdsEscape cs = false) :
    decode cs = Utf8.encode cs := by
  induction cs with
  | nil => rfl
  | cons c cs ih =>
    rw [holdsEscape, Bool.or_eq_false_iff] at free
    rw [decode_cons free.1, ih free.2, Utf8.encode_cons]

/-- No escape stands in a text without a percent sign. -/
theorem holdsEscape_of_not_mem {cs : List Char} (absent : '%' ∉ cs) : holdsEscape cs = false := by
  induction cs with
  | nil => rfl
  | cons c cs ih =>
    obtain ⟨hc, hcs⟩ := List.ne_and_not_mem_of_not_mem_cons absent
    rw [holdsEscape, ih hcs, Bool.or_false, escapeInFront]
    intro a b rest h
    exact absurd (List.cons.inj h).1.symm hc

/-- A text without a percent sign is decoded before what stands behind it. -/
theorem decode_append {front : List Char} (absent : '%' ∉ front) (back : List Char) :
    decode (front ++ back) = Utf8.encode front ++ decode back := by
  induction front with
  | nil => rfl
  | cons c cs ih =>
    obtain ⟨hc, hcs⟩ := List.ne_and_not_mem_of_not_mem_cons absent
    have plain : escapeInFront (c :: (cs ++ back)) = false := by
      unfold escapeInFront
      split
      · next h => exact absurd (List.cons.inj h).1.symm hc
      · rfl
    rw [List.cons_append, decode_cons plain, ih hcs, Utf8.encode_cons, List.append_assoc]

/-- So its characters come first in what is read. -/
theorem toOption_decodeText_append {front : List Char} (absent : '%' ∉ front) (back : List Char) :
    (decodeText (front ++ back)).toOption = (decodeText back).toOption.map (front ++ ·) := by
  rw [decodeText, decode_append absent, Utf8.toOption_decode_append, decodeText]

/-- **A character of ASCII that escapes do not consist of keeps its byte.** -/
theorem mem_decode {c : Char} (ascii : c.toNat < 0x80) (percent : c ≠ '%')
    (digit : hexValue? c = none) {cs : List Char} (mem : c ∈ cs) :
    c.toNat.toUInt8 ∈ decode cs := by
  induction h : cs.length using Nat.strongRecOn generalizing cs with
  | ind n ih =>
    subst h
    cases cs with
    | nil => cases mem
    | cons d ds =>
      cases front : escapeInFront (d :: ds) with
      | true =>
        obtain ⟨a, b, rest, m, n, rfl, rfl, ha, hb⟩ := exists_of_escapeInFront front
        have behind : c ∈ rest := by
          rcases List.mem_cons.mp mem with same | mem
          · exact absurd same percent
          · rcases List.mem_cons.mp mem with rfl | mem
            · rw [digit] at ha; cases ha
            · rcases List.mem_cons.mp mem with rfl | mem
              · rw [digit] at hb; cases hb
              · exact mem
        rw [decode_escape ha hb]
        have shorter : rest.length < ('%' :: a :: b :: rest).length := by
          simp only [List.length_cons]
          omega
        exact List.mem_cons_of_mem _ (ih rest.length shorter behind rfl)
      | false =>
        rw [decode_cons front]
        rcases List.mem_cons.mp mem with rfl | behind
        · have single : Utf8.encodeChar c = [c.toNat.toUInt8] := by
            simp only [Utf8.encodeChar, if_pos ascii]
          rw [single]
          exact List.mem_append_left _ (List.mem_singleton_self _)
        · exact List.mem_append_right _ (ih ds.length (Nat.lt_succ_self _) behind rfl)

/-- A byte is decoded from its escape. -/
theorem decode_encodeByte (b : UInt8) (rest : List Char) :
    decode (encodeByte b ++ rest) = b :: decode rest := by
  have hb := b.toNat_lt
  have value : (b.toNat / 0x10 * 0x10 + b.toNat % 0x10).toUInt8 = b := by
    rw [Nat.div_add_mod']
    exact UInt8.ofNat_toNat
  rw [encodeByte, List.cons_append, List.cons_append, List.cons_append, List.nil_append,
    decode_escape (hexValue?_hexDigit _ (by omega)) (hexValue?_hexDigit _ (by omega)), value]

/-- So are several bytes. -/
theorem decode_encodeBytes (bs : List UInt8) (rest : List Char) :
    decode (bs.flatMap encodeByte ++ rest) = bs ++ decode rest := by
  induction bs with
  | nil => rfl
  | cons b bs ih =>
    rw [List.flatMap_cons, List.append_assoc, decode_encodeByte, ih, List.cons_append]

/-! ## What encoding leaves in front -/

section

variable {reserved : Char → Bool}

/-- A character is encoded before those behind it. -/
theorem encode_cons (c : Char) (cs : List Char) :
    encode reserved (c :: cs) =
      (if c.toNat < 0x80 && !reserved c then [c] else (Utf8.encodeChar c).flatMap encodeByte) ++
        encode reserved cs :=
  List.flatMap_cons

/-- A character that is not reserved stays as it is. -/
theorem encode_cons_of_plain {c : Char} (ascii : c.toNat < 0x80) (free : reserved c = false)
    (cs : List Char) : encode reserved (c :: cs) = c :: encode reserved cs := by
  simp only [encode_cons, ascii, free, decide_true, Bool.not_false, Bool.and_self, if_true,
    List.cons_append, List.nil_append]

/-- A text of such characters stays as it is. -/
theorem encode_of_plain {cs : List Char}
    (plain : ∀ c ∈ cs, c.toNat < 0x80 ∧ reserved c = false) : encode reserved cs = cs := by
  induction cs with
  | nil => rfl
  | cons c cs ih =>
    obtain ⟨here, behind⟩ := List.forall_mem_cons.mp plain
    rw [encode_cons_of_plain here.1 here.2, ih behind]

/-- A text is encoded with a digit in front only if it has one itself. -/
theorem hexValue?_front {c d : Char} {cs rest : List Char} (noDigit : hexValue? c = none)
    (encoded : encode reserved (c :: cs) = d :: rest) : hexValue? d = none := by
  rw [encode_cons] at encoded
  split at encoded
  · rw [← (List.cons.inj encoded).1]
    exact noDigit
  · obtain ⟨b, bs, hb⟩ := List.exists_cons_of_ne_nil (Utf8.encodeChar_ne_nil c)
    rw [hb, List.flatMap_cons, encodeByte] at encoded
    rw [← (List.cons.inj encoded).1]
    rfl

/-- The first byte of a character is the byte of no other one in ASCII. -/
theorem exists_encodeChar {c : Char} {n : Nat} (ascii : n < 0x80) (other : c.toNat ≠ n) :
    ∃ b bs, Utf8.encodeChar c = b :: bs ∧ b.toNat ≠ n := by
  have form := Utf8.form_encodeChar c
  generalize Utf8.encodeChar c = bytes, c.toNat = m at form other
  cases form with
  | one => exact ⟨_, _, rfl, other⟩
  | two high => exact ⟨_, _, rfl, by omega⟩
  | three high => exact ⟨_, _, rfl, by omega⟩
  | four high => exact ⟨_, _, rfl, by omega⟩

/-- What is encoded is made of characters that need no encoding, and of escapes. -/
theorem plain_or_escape_of_mem_encode {cs : List Char} {d : Char} (mem : d ∈ encode reserved cs) :
    (d.toNat < 0x80 ∧ reserved d = false) ∨ d ∈ escapeChars := by
  obtain ⟨c, _, hd⟩ := List.mem_flatMap.mp mem
  split at hd
  · next plain =>
    obtain rfl := List.mem_singleton.mp hd
    exact .inl (by simpa using plain)
  · obtain ⟨b, _, hb⟩ := List.mem_flatMap.mp hd
    exact .inr (mem_encodeByte hb)

/-- **A text comes back where the percent sign is reserved**: whatever looks like an escape in it is
encoded as well. -/
theorem decode_encode_of_reserved (percent : reserved '%' = true) (cs : List Char) :
    decode (encode reserved cs) = Utf8.encode cs := by
  induction cs with
  | nil => rfl
  | cons c cs ih =>
    rw [encode_cons, Utf8.encode_cons, ← ih]
    split
    · next plain =>
      refine decode_cons ?_
      unfold escapeInFront
      split
      · next front =>
        -- the percent sign would not stand there as it is
        obtain rfl := (List.cons.inj front).1
        rw [percent] at plain
        cases plain
      · rfl
    · exact decode_encodeBytes _ _

variable (keeps : KeepsEscapes reserved)
include keeps

/-- **What is encoded is made of characters that need no encoding.** -/
theorem plain_of_mem_encode {cs : List Char} {d : Char} (mem : d ∈ encode reserved cs) :
    d.toNat < 0x80 ∧ reserved d = false := by
  rcases plain_or_escape_of_mem_encode mem with plain | escape
  · exact plain
  · have written : ∀ c ∈ escapeChars, c = '%' ∨ (hexValue? c).isSome = true :=
      List.all_iff_forall_prop.mp (by decide)
    rcases written d escape with rfl | digit
    · exact ⟨by decide, keeps.percent⟩
    · exact ⟨ascii_of_hexValue? digit, keeps.digit d digit⟩

/-- So it needs no further encoding. -/
theorem isEncoded_encode (cs : List Char) :
    IsEncoded reserved (String.ofList (encode reserved cs)) := by
  intro c mem
  rw [String.toList_ofList] at mem
  exact plain_of_mem_encode keeps mem

/-- A digit stays as it is. -/
theorem encode_cons_of_digit {c : Char} (digit : (hexValue? c).isSome = true) (cs : List Char) :
    encode reserved (c :: cs) = c :: encode reserved cs :=
  encode_cons_of_plain (ascii_of_hexValue? digit) (keeps.digit c digit) cs

/-- **Encoding neither makes nor destroys an escape** behind a percent sign. -/
theorem escapeInFront_encode (cs : List Char) :
    escapeInFront ('%' :: encode reserved cs) = escapeInFront ('%' :: cs) := by
  cases cs with
  | nil => rfl
  | cons a cs =>
    cases ha : hexValue? a with
    | none =>
      obtain ⟨d, rest, hd⟩ := List.exists_cons_of_ne_nil (encode_ne_nil (List.cons_ne_nil a cs))
      have front := hexValue?_front ha hd
      rw [hd]
      cases cs <;> cases rest <;> simp only [escapeInFront, ha, front, Option.isSome_none, Bool.false_and]
    | some m =>
      rw [encode_cons_of_digit keeps (by rw [ha]; rfl)]
      cases cs with
      | nil => rfl
      | cons b cs =>
        cases hb : hexValue? b with
        | none =>
          obtain ⟨d, rest, hd⟩ :=
            List.exists_cons_of_ne_nil (encode_ne_nil (List.cons_ne_nil b cs))
          rw [hd]
          simp only [escapeInFront, hb, hexValue?_front hb hd, Option.isSome_none, Bool.and_false]
        | some n =>
          rw [encode_cons_of_digit keeps (by rw [hb]; rfl)]
          rfl

/-! ## There and back -/

/-- A character in front that begins no escape comes back as its own bytes. -/
theorem decode_encode_cons {c : Char} {cs : List Char} (plain : escapeInFront (c :: cs) = false) :
    decode (encode reserved (c :: cs)) = Utf8.encodeChar c ++ decode (encode reserved cs) := by
  rw [encode_cons]
  split
  · refine decode_cons ?_
    by_cases hc : c = '%'
    · subst hc
      exact (escapeInFront_encode keeps cs).trans plain
    · unfold escapeInFront
      split
      · next h => exact absurd (List.cons.inj h).1 hc
      · rfl
  · exact decode_encodeBytes _ _

/-- An escape in front comes back as a single byte. -/
theorem decode_encode_escape {a b : Char} {m n : Nat} (ha : hexValue? a = some m)
    (hb : hexValue? b = some n) (cs : List Char) :
    decode (encode reserved ('%' :: a :: b :: cs)) =
      (m * 0x10 + n).toUInt8 :: decode (encode reserved cs) := by
  rw [encode_cons_of_plain (by decide) keeps.percent, encode_cons_of_digit keeps (by rw [ha]; rfl),
    encode_cons_of_digit keeps (by rw [hb]; rfl), decode_escape ha hb]

/-- **A text without an escape comes back.** -/
theorem decode_encode {cs : List Char} (free : holdsEscape cs = false) :
    decode (encode reserved cs) = Utf8.encode cs := by
  induction cs with
  | nil => rfl
  | cons c cs ih =>
    rw [holdsEscape, Bool.or_eq_false_iff] at free
    rw [decode_encode_cons keeps free.1, ih free.2, Utf8.encode_cons]

/-- No text comes back with more bytes than it has. -/
theorem length_decode_encode_le (cs : List Char) :
    (decode (encode reserved cs)).length ≤ (Utf8.encode cs).length := by
  induction h : cs.length using Nat.strongRecOn generalizing cs with
  | ind n ih =>
    subst h
    cases cs with
    | nil => exact Nat.le_refl _
    | cons c cs =>
      cases front : escapeInFront (c :: cs) with
      | false =>
        rw [decode_encode_cons keeps front, Utf8.encode_cons, List.length_append,
          List.length_append]
        exact Nat.add_le_add_left (ih cs.length (Nat.lt_succ_self _) cs rfl) _
      | true =>
        obtain ⟨a, b, rest, m, n, rfl, rfl, ha, hb⟩ := exists_of_escapeInFront front
        have shorter := ih rest.length (by simp only [List.length_cons]; omega) rest rfl
        rw [decode_encode_escape keeps ha hb]
        simp only [Utf8.encode_cons, List.length_cons, List.length_append]
        have := Utf8.length_encodeChar_pos '%'
        omega

/-- A text with an escape comes back with fewer bytes than it has. -/
theorem length_decode_encode_lt {cs : List Char} (held : holdsEscape cs = true) :
    (decode (encode reserved cs)).length < (Utf8.encode cs).length := by
  induction cs with
  | nil => cases held
  | cons c cs ih =>
    cases front : escapeInFront (c :: cs) with
    | false =>
      rw [holdsEscape, front, Bool.false_or] at held
      rw [decode_encode_cons keeps front, Utf8.encode_cons, List.length_append, List.length_append]
      exact Nat.add_lt_add_left (ih held) _
    | true =>
      obtain ⟨a, b, rest, m, n, rfl, rfl, ha, hb⟩ := exists_of_escapeInFront front
      have shorter := length_decode_encode_le keeps rest
      rw [decode_encode_escape keeps ha hb]
      simp only [Utf8.encode_cons, List.length_cons, List.length_append]
      have := Utf8.length_encodeChar_pos '%'
      have := Utf8.length_encodeChar_pos a
      omega

/-- **A text comes back exactly when no escape stands in it.** -/
theorem decodeText_encode {cs : List Char} :
    decodeText (encode reserved cs) = .ok cs ↔ holdsEscape cs = false := by
  rw [decodeText, Utf8.decode_eq_ok]
  constructor
  · intro same
    rw [← Bool.not_eq_true]
    intro held
    exact absurd (congrArg List.length same) (Nat.ne_of_lt (length_decode_encode_lt keeps held))
  · exact decode_encode keeps

end

end ProxyAutoConfig.Text.Percent
