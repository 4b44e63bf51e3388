/-
TreeTemplate.Text.Blank — white space.

White space here is Unicode's, with the four separators U+001C to U+001F
counted in, and neither the zero width space nor the byte order mark.

* `CodePoint.isBlank` — the set.
* `Text.trim` — a text without the white space at its two ends.
* `Text.isBlank` — nothing but white space.
-/
import TreeTemplate.Text.CodePoint

namespace TreeTemplate

/-- Whether a code point is white space. -/
def CodePoint.isBlank (c : CodePoint) : Bool :=
  let n := c.value
  (9 ≤ n && n ≤ 13) || (0x1C ≤ n && n ≤ 0x20) || n == 0x85 || n == 0xA0 || n == 0x1680
    || (0x2000 ≤ n && n ≤ 0x200A) || n == 0x2028 || n == 0x2029 || n == 0x202F
    || n == 0x205F || n == 0x3000

namespace Text

/-- The text from its first code point that is not white space. -/
def trimStart (t : Text) : Text := t.dropWhile CodePoint.isBlank

/-- The text up to its last code point that is not white space. -/
def trimEnd : Text → Text
  | [] => []
  | c :: rest =>
    match trimEnd rest with
    | [] => if c.isBlank then [] else [c]
    | kept => c :: kept

/-- The text without white space at its ends. -/
def trim (t : Text) : Text := trimEnd (trimStart t)

/-- Whether the text is empty or white space only. -/
def isBlank (t : Text) : Bool := t.all CodePoint.isBlank

end Text

end TreeTemplate
