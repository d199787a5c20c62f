/-! Text as lists of characters: blanks, text without blanks at its ends, and its length in bytes. -/

namespace RowFilter.Text

/-- The characters with the Unicode property of white space, as ranges of code points. -/
def blankRanges : List (Nat × Nat) :=
  -- The first range holds tabs and line ends, and the others single blanks of many widths.
  [(0x09, 0x0D), (0x20, 0x20), (0x85, 0x85), (0xA0, 0xA0), (0x1680, 0x1680), (0x2000, 0x200A),
    (0x2028, 0x2029), (0x202F, 0x202F), (0x205F, 0x205F), (0x3000, 0x3000)]

/-- Whether a character is blank. -/
def isBlank (c : Char) : Bool :=
  -- The ranges are few, so that they are tried one by one.
  blankRanges.any fun (first, last) => first ≤ c.toNat && c.toNat ≤ last

/-- Drops the blanks at both ends. -/
def trim (text : List Char) : List Char :=
  -- Blanks inside the text stay.
  ((text.dropWhile isBlank).reverse.dropWhile isBlank).reverse

/-- The number of bytes that characters take in UTF-8. -/
def byteLength (text : List Char) : Nat :=
  -- A character takes one byte at least, and four at most.
  text.foldr (fun c total => c.utf8Size + total) 0

/-- A text has no more characters than bytes. -/
theorem length_le_byteLength (text : List Char) : text.length ≤ byteLength text := by
  -- Each character takes a byte at least.
  induction text with
  | nil => exact Nat.le_refl _
  | cons c rest ih =>
    have own : 1 ≤ c.utf8Size := c.utf8Size_pos
    show rest.length + 1 ≤ c.utf8Size + byteLength rest
    omega

end RowFilter.Text
