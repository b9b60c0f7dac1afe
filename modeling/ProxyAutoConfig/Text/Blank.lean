/-!
# Blank characters

The characters that separate fields and may surround a value: the Unicode property
`White_Space`, all twenty-five of them. The zero-width space and the byte order mark are not
blank.

Text is worked on as a list of characters. `fields` cuts it at blanks and drops the empty
pieces, `trim` drops blanks at both ends.
-/

namespace ProxyAutoConfig.Text

/-- The Unicode property `White_Space`. -/
def isBlank (c : Char) : Bool :=
  let n := c.toNat
  (9 ≤ n && n ≤ 13) || n == 0x20 || n == 0x85 || n == 0xA0 || n == 0x1680 ||
    (0x2000 ≤ n && n ≤ 0x200A) || n == 0x2028 || n == 0x2029 || n == 0x202F || n == 0x205F ||
    n == 0x3000

/-- Text without the blanks in front. -/
def trimStart (cs : List Char) : List Char :=
  cs.dropWhile isBlank

/-- Text without the blanks at its end. -/
def trimEnd (cs : List Char) : List Char :=
  (cs.reverse.dropWhile isBlank).reverse

/-- Text without the blanks at both ends. -/
def trim (cs : List Char) : List Char :=
  trimEnd (trimStart cs)

/-- The longest pieces that hold no blank, in order; none is empty. -/
def fields (cs : List Char) : List (List Char) :=
  (cs.splitOnP isBlank).filter (!·.isEmpty)

/-- Nothing but blanks. -/
def isAllBlank (cs : List Char) : Bool :=
  cs.all isBlank

/-- No field is empty. -/
theorem isEmpty_of_mem_fields {cs f : List Char} (h : f ∈ fields cs) : f.isEmpty = false := by
  simpa [fields] using (List.mem_filter.mp h).2

end ProxyAutoConfig.Text
