/-!
# Blank characters

Words and lines are trimmed by the Unicode property `White_Space`, which holds of
twenty-five characters.
-/

namespace HackVm.Text

/-- Whether a character has the Unicode property `White_Space`. -/
def isBlank (char : Char) : Bool :=
  let code := char.toNat
  (0x09 ≤ code && code ≤ 0x0D) || code == 0x20 || code == 0x85 || code == 0xA0 ||
    code == 0x1680 || (0x2000 ≤ code && code ≤ 0x200A) || code == 0x2028 ||
    code == 0x2029 || code == 0x202F || code == 0x205F || code == 0x3000

/-- Drop the blanks at the end of a text. -/
def trimRight (chars : List Char) : List Char :=
  (chars.reverse.dropWhile isBlank).reverse

/-- Drop the blanks at both ends of a text. -/
def trim (chars : List Char) : List Char := trimRight (chars.dropWhile isBlank)

/-- The first maximal run of characters that are not blank. -/
def firstWord (chars : List Char) : List Char :=
  (chars.dropWhile isBlank).takeWhile fun char => !isBlank char

end HackVm.Text
