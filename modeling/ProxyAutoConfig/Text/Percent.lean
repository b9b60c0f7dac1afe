import ProxyAutoConfig.Text.Utf8

/-!
# Percent-encoding

A byte written as `%` and two hexadecimal digits. `encode` leaves the ASCII characters that a
set does not hold as they are and writes every other character byte by byte, so the outcome is
ASCII. `decode` reads each `%` that two digits follow back to its byte and leaves any other `%`
alone, so decoding cannot fail: what may fail is reading the bytes as text.
-/

namespace ProxyAutoConfig.Text.Percent

/-- The capital hexadecimal digit of a number below sixteen. -/
def hexDigit (n : Nat) : Char :=
  if n < 10 then Char.ofNat ('0'.toNat + n) else Char.ofNat ('A'.toNat + (n - 10))

/-- The value of a hexadecimal digit in either case. -/
def hexValue? (c : Char) : Option Nat :=
  if '0' ≤ c ∧ c ≤ '9' then some (c.toNat - '0'.toNat)
  else if 'A' ≤ c ∧ c ≤ 'F' then some (c.toNat - 'A'.toNat + 10)
  else if 'a' ≤ c ∧ c ≤ 'f' then some (c.toNat - 'a'.toNat + 10)
  else none

/-- A byte as `%` and two digits. -/
def encodeByte (b : UInt8) : List Char :=
  ['%', hexDigit (b.toNat / 0x10), hexDigit (b.toNat % 0x10)]

/-- Encode every character that is not ASCII or that `reserved` holds of. -/
def encode (reserved : Char → Bool) (cs : List Char) : List Char :=
  cs.flatMap fun c =>
    if c.toNat < 0x80 && !reserved c then [c] else (Utf8.encodeChar c).flatMap encodeByte

/-- The characters of escapes. -/
def escapeChars : List Char :=
  ['%', '0', '1', '2', '3', '4', '5', '6', '7', '8', '9', 'A', 'B', 'C', 'D', 'E', 'F']

/-- A hexadecimal digit stands in escapes. -/
theorem hexDigit_mem : ∀ n < 0x10, hexDigit n ∈ escapeChars := by
  decide

/-- An escape is made of the characters of escapes. -/
theorem mem_encodeByte {b : UInt8} {c : Char} (mem : c ∈ encodeByte b) : c ∈ escapeChars := by
  have hb := b.toNat_lt
  simp only [encodeByte, List.mem_cons, List.not_mem_nil, or_false] at mem
  rcases mem with rfl | rfl | rfl
  · decide
  · exact hexDigit_mem _ (by omega)
  · exact hexDigit_mem _ (by omega)

/-- An encoded text is made of its own characters and those of escapes. -/
theorem mem_encode {reserved : Char → Bool} {cs : List Char} {d : Char}
    (mem : d ∈ encode reserved cs) : d ∈ cs ∨ d ∈ escapeChars := by
  obtain ⟨c, hc, hd⟩ := List.mem_flatMap.mp mem
  split at hd
  · rw [List.mem_singleton] at hd
    exact .inl (hd ▸ hc)
  · obtain ⟨b, _, hb⟩ := List.mem_flatMap.mp hd
    exact .inr (mem_encodeByte hb)

/-- Only a text without a character is encoded as none. -/
theorem encode_ne_nil {reserved : Char → Bool} {cs : List Char} (nonempty : cs ≠ []) :
    encode reserved cs ≠ [] := by
  obtain ⟨c, rest, rfl⟩ := List.exists_cons_of_ne_nil nonempty
  simp only [encode, List.flatMap_cons]
  split
  · exact List.cons_ne_nil _ _
  · obtain ⟨b, bs, hb⟩ := List.exists_cons_of_ne_nil (Utf8.encodeChar_ne_nil c)
    simp only [hb, List.flatMap_cons, encodeByte, List.cons_append, ne_eq, reduceCtorEq,
      not_false_eq_true]

/-- The bytes of a text in which escapes stand for bytes. -/
def decode : List Char → List UInt8
  | [] => []
  | '%' :: a :: b :: rest =>
    match hexValue? a, hexValue? b with
    | some m, some n => (m * 0x10 + n).toUInt8 :: decode rest
    | _, _ => '%'.toNat.toUInt8 :: decode (a :: b :: rest)
  | c :: rest => Utf8.encodeChar c ++ decode rest

/-- The text that escapes and plain characters spell together, or the flaw of its bytes. -/
def decodeText (cs : List Char) : Except Utf8.Flaw (List Char) :=
  Utf8.decode (decode cs)

/-! ## The sets of a URL's parts -/

/-- Control characters. -/
def isControl (c : Char) : Bool :=
  c.toNat < 0x20 || c.toNat == 0x7F

/-- Reserved in a fragment. -/
def isFragmentReserved (c : Char) : Bool :=
  isControl c || [' ', '"', '<', '>', '\x60'].contains c

/-- Reserved in a path. -/
def isPathReserved (c : Char) : Bool :=
  isFragmentReserved c || ['#', '?', '\x7b', '\x7d'].contains c

/-- Reserved in a user name or a password. -/
def isUserinfoReserved (c : Char) : Bool :=
  isPathReserved c || ['/', ':', ';', '=', '@', '[', '\\', ']', '^', '|'].contains c

/-- Reserved in a query. -/
def isQueryReserved (c : Char) : Bool :=
  isControl c || [' ', '"', '#', '<', '>'].contains c

/-- Reserved in the query of a URL whose scheme has rules of its own. -/
def isSpecialQueryReserved (c : Char) : Bool :=
  isQueryReserved c || c == '\''

end ProxyAutoConfig.Text.Percent
