/-!
# Blank characters

The characters with the Unicode property of white space, and texts without them at either end.
-/

namespace DocMapper.Text

/-- The code points of white space, as closed ranges. -/
def blankRanges : List (Nat × Nat) := [
  (0x9, 0xD), (0x20, 0x20), (0x85, 0x85), (0xA0, 0xA0), (0x1680, 0x1680), (0x2000, 0x200A),
  (0x2028, 0x2029), (0x202F, 0x202F), (0x205F, 0x205F), (0x3000, 0x3000)]

/-- Whether a character lies in one of some closed ranges. -/
def inRanges (ranges : List (Nat × Nat)) (c : Char) : Bool :=
  ranges.any fun range => range.1 ≤ c.toNat && c.toNat ≤ range.2

/-- Whether a character is white space. -/
def isBlank (c : Char) : Bool := inRanges blankRanges c

/-- Whether a character stands between words: white space, or one of the four characters that
separate files, groups, records and units. -/
def isSpacing (c : Char) : Bool := isBlank c || inRanges [(0x1C, 0x1F)] c

/-- A text without the characters of a kind at its ends. -/
def trimmed (drop : Char → Bool) (text : List Char) : List Char :=
  ((text.dropWhile drop).reverse.dropWhile drop).reverse

/-- A text without white space at its ends. -/
def trim (text : List Char) : List Char := trimmed isBlank text

end DocMapper.Text
