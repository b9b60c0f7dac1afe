/-!
# UTF-8

Characters as bytes and back. `Utf8.encode` writes a character in one to four bytes. Reading
goes by chunks: `Utf8.chunk` looks at the bytes in front and finds a character, a stretch that
no character starts with, or an end of input inside a character. A stretch is as long as the
bytes that could still have begun a character, and at least one byte long.

`Utf8.decode` refuses at the first chunk that is no character and says where it is;
`Utf8.decodeLossy` writes U+FFFD for each such chunk and goes on.
-/

namespace ProxyAutoConfig.Text.Utf8

/-- The bytes of one character. -/
def encodeChar (c : Char) : List UInt8 :=
  let n := c.toNat
  if n < 0x80 then [n.toUInt8]
  else if n < 0x800 then [(0xC0 + n / 0x40).toUInt8, (0x80 + n % 0x40).toUInt8]
  else if n < 0x10000 then
    [(0xE0 + n / 0x1000).toUInt8, (0x80 + n / 0x40 % 0x40).toUInt8, (0x80 + n % 0x40).toUInt8]
  else
    [(0xF0 + n / 0x40000).toUInt8, (0x80 + n / 0x1000 % 0x40).toUInt8,
      (0x80 + n / 0x40 % 0x40).toUInt8, (0x80 + n % 0x40).toUInt8]

/-- A character has at least one byte. -/
theorem encodeChar_ne_nil (c : Char) : encodeChar c ≠ [] := by
  simp only [encodeChar]
  split
  · exact List.cons_ne_nil _ _
  · split
    · exact List.cons_ne_nil _ _
    · split <;> exact List.cons_ne_nil _ _

/-- The bytes of a text. -/
def encode (cs : List Char) : List UInt8 :=
  cs.flatMap encodeChar

/-- What stands at the front of a byte sequence. -/
inductive Chunk where
  /-- A character and the number of its bytes. -/
  | char (c : Char) (size : Nat)
  /-- This many bytes begin no character. -/
  | broken (size : Nat)
  /-- The input ends inside a character. -/
  | cut
  deriving DecidableEq, Repr

/-- A byte that goes on with a character: `10xxxxxx`. -/
def isTail (b : UInt8) : Bool :=
  0x80 ≤ b && b ≤ 0xBF

/-- The six bits a tail byte carries. -/
def tailBits (b : UInt8) : Nat :=
  b.toNat % 0x40

/-- The least and the greatest second byte after a first byte of three or four. The bounds keep
out overlong forms, surrogates and values above U+10FFFF. -/
def secondRange (b : UInt8) : UInt8 × UInt8 :=
  if b == 0xE0 then (0xA0, 0xBF)
  else if b == 0xED then (0x80, 0x9F)
  else if b == 0xF0 then (0x90, 0xBF)
  else if b == 0xF4 then (0x80, 0x8F)
  else (0x80, 0xBF)

/-- The chunk that a first byte and the bytes after it make. -/
def chunk (b : UInt8) (rest : List UInt8) : Chunk :=
  let n := b.toNat
  if n < 0x80 then .char (Char.ofNat n) 1
  else if n < 0xC2 || 0xF4 < n then .broken 1
  else
    match rest with
    | [] => .cut
    | c :: rest =>
      let (low, high) := secondRange b
      if c < low || high < c then .broken 1
      else if n < 0xE0 then .char (Char.ofNat (n % 0x20 * 0x40 + tailBits c)) 2
      else
        match rest with
        | [] => .cut
        | d :: rest =>
          if !isTail d then .broken 2
          else if n < 0xF0 then
            .char (Char.ofNat (n % 0x10 * 0x1000 + tailBits c * 0x40 + tailBits d)) 3
          else
            match rest with
            | [] => .cut
            | e :: _ =>
              if !isTail e then .broken 3
              else
                .char (Char.ofNat
                  (n % 8 * 0x40000 + tailBits c * 0x1000 + tailBits d * 0x40 + tailBits e)) 4

/-- Why a byte sequence is no text: where the first fault lies, and how many bytes it takes, or
`none` when the input ends inside a character. -/
structure Flaw where
  position : Nat
  size : Option Nat
  deriving DecidableEq, Repr

/-- The wording of a flaw. -/
def Flaw.message (f : Flaw) : String :=
  match f.size with
  | some n => "invalid utf-8 sequence of " ++ toString n ++ " bytes from index " ++ toString f.position
  | none => "incomplete utf-8 byte sequence from index " ++ toString f.position

/-- Read bytes, the first of which stands at `position`. A chunk that begins at a byte is
skipped with it: `skip` counts the bytes that an earlier chunk has already taken. -/
def decodeFrom (position skip : Nat) : List UInt8 → Except Flaw (List Char)
  | [] => .ok []
  | b :: rest =>
    match skip with
    | k + 1 => decodeFrom (position + 1) k rest
    | 0 =>
      match chunk b rest with
      | .char c size =>
        match decodeFrom (position + 1) (size - 1) rest with
        | .ok cs => .ok (c :: cs)
        | .error f => .error f
      | .broken size => .error ⟨position, some size⟩
      | .cut => .error ⟨position, none⟩

/-- The text that the bytes spell, or the first flaw. -/
def decode (bytes : List UInt8) : Except Flaw (List Char) :=
  decodeFrom 0 0 bytes

/-- The text that the bytes spell, with U+FFFD for every chunk that is no character; `skip`
counts the bytes that an earlier chunk has already taken. -/
def decodeLossyFrom (skip : Nat) : List UInt8 → List Char
  | [] => []
  | b :: rest =>
    match skip with
    | k + 1 => decodeLossyFrom k rest
    | 0 =>
      match chunk b rest with
      | .char c size => c :: decodeLossyFrom (size - 1) rest
      | .broken size => Char.ofNat 0xFFFD :: decodeLossyFrom (size - 1) rest
      | .cut => [Char.ofNat 0xFFFD]

/-- The text that the bytes spell, with U+FFFD for every chunk that is no character. -/
def decodeLossy (bytes : List UInt8) : List Char :=
  decodeLossyFrom 0 bytes

end ProxyAutoConfig.Text.Utf8
