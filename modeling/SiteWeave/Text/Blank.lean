import SiteWeave.Text.Search
import SiteWeave.Text.CodeRange

/-!
# Blank characters

Blank are the characters with the Unicode property `White_Space`: the ASCII spaces and line ends,
and the spaces and separators of other scripts.

## Main definitions

* `isBlank`: whether a character is blank.
* `Text.trimStart`, `Text.trim`: a text without the blanks at its start, or at both ends.

## Main results

* `isBlank_of_isWhitespace`: the ASCII blanks of the standard library are blank.
-/

namespace SiteWeave

/-- The ranges of the property `White_Space`. -/
def blankRanges : List CodeRange :=
  [(0x9, 0xD), (0x20, 0x20), (0x85, 0x85), (0xA0, 0xA0), (0x1680, 0x1680), (0x2000, 0x200A),
    (0x2028, 0x2029), (0x202F, 0x202F), (0x205F, 0x205F), (0x3000, 0x3000)]

/-- Whether a character is blank. -/
def isBlank (c : Char) : Bool :=
  inRanges blankRanges c

theorem isBlank_of_isWhitespace {c : Char} (h : c.isWhitespace) : isBlank c := by
  simp only [Char.isWhitespace, Bool.or_eq_true, decide_eq_true_eq] at h
  rcases h with ((rfl | rfl) | rfl) | rfl <;> decide

namespace Text

/-- The text without the blanks at its start. -/
def trimStart (text : Text) : Text :=
  text.dropWhile isBlank

/-- The text without the blanks at its end. -/
def trimEnd (text : Text) : Text :=
  (text.reverse.dropWhile isBlank).reverse

/-- The text without the blanks at both ends. -/
def trim (text : Text) : Text :=
  text.trimStart.trimEnd

end Text

end SiteWeave
