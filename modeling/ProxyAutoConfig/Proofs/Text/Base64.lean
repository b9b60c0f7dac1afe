import ProxyAutoConfig.Text.Base64

/-!
# Base64, there and back

Three bytes are one number of twenty-four bits, and so are the four digits that they are written with.
Of one byte or two the number is moved up to whole digits, with fillers behind them.

**The law** (`decode_encode`): bytes are read from the digits that they are written with.
-/

namespace ProxyAutoConfig.Text.Base64

/-! ## Digits -/

/-- A digit has the value that it is the digit of. -/
theorem value?_digit {n : Nat} (small : n < 0x40) : value? (digit n) = some n :=
  (by decide : ∀ n < 0x40, value? (digit n) = some n) n small

/-- The filler is no digit. -/
theorem digit_ne_filler {n : Nat} (small : n < 0x40) : digit n ≠ '=' :=
  (by decide : ∀ n < 0x40, digit n ≠ '=') n small

/-! ## Groups -/

section

variable {p q r s : Nat} (hp : p < 0x40) (hq : q < 0x40) (hr : r < 0x40) (hs : s < 0x40)
include hp hq

/-- Two digits and two fillers are read as one byte. -/
theorem decode_two :
    decode [digit p, digit q, '=', '='] =
      if (p * 0x40 + q) % 0x10 = 0 then some [((p * 0x40 + q) / 0x10).toUInt8] else none := by
  simp [decode, value?_digit hp, value?_digit hq]

include hr

/-- Three digits and a filler are read as two bytes. -/
theorem decode_three {n : Nat} (number : n = (p * 0x40 + q) * 0x40 + r) :
    decode [digit p, digit q, digit r, '='] =
      if n % 4 = 0 then some [(n / 0x400).toUInt8, (n / 4 % 0x100).toUInt8] else none := by
  subst number
  simp [decode, digit_ne_filler hr, value?_digit hp, value?_digit hq, value?_digit hr]

include hs

/-- Four digits are read as three bytes. -/
theorem decode_four {n : Nat} (number : n = ((p * 0x40 + q) * 0x40 + r) * 0x40 + s)
    (rest : List Char) :
    decode (digit p :: digit q :: digit r :: digit s :: rest) =
      (decode rest).map fun bytes =>
        (n / 0x10000).toUInt8 :: (n / 0x100 % 0x100).toUInt8 :: (n % 0x100).toUInt8 :: bytes := by
  subst number
  cases behind : decode rest <;>
    simp [decode, digit_ne_filler hs, value?_digit hp, value?_digit hq, value?_digit hr,
      value?_digit hs, behind]

end

/-! ## There and back -/

/-- A byte is found again in its number. -/
theorem toUInt8_eq {n : Nat} {b : UInt8} (same : n = b.toNat) : n.toUInt8 = b :=
  same ▸ UInt8.ofNat_toNat

/-- **Bytes are read from the digits that they are written with.** -/
theorem decode_encode (bytes : List UInt8) : decode (encode bytes) = some bytes := by
  fun_induction encode bytes with
  | case1 => rfl
  | case2 a n =>
    have ha := a.toNat_lt
    rw [decode_two (by omega) (by omega), if_pos (by omega), toUInt8_eq (b := a) (by omega)]
  | case3 a b n =>
    have ha := a.toNat_lt
    have hb := b.toNat_lt
    rw [decode_three (n := n) (by omega) (by omega) (by omega) (by omega), if_pos (by omega),
      toUInt8_eq (b := a) (by omega), toUInt8_eq (b := b) (by omega)]
  | case4 a b c rest n ih =>
    have ha := a.toNat_lt
    have hb := b.toNat_lt
    have hc := c.toNat_lt
    rw [decode_four (n := n) (by omega) (by omega) (by omega) (by omega) (by omega), ih,
      toUInt8_eq (b := a) (by omega), toUInt8_eq (b := b) (by omega),
      toUInt8_eq (b := c) (by omega)]
    rfl

end ProxyAutoConfig.Text.Base64
