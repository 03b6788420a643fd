import Rulebook.Text.CodeRange

/-!
# Blank characters and trimming

A character is *blank* when Unicode gives it the property `White_Space` or a bidirectional class of
a separator: the ASCII blanks, the four information separators U+001C to U+001F, the next-line
control, the no-break and the typographic spaces, the line and paragraph separators and the
ideographic space.  The zero-width space is not blank.

`trim` removes blanks at both ends.  A text is blank (`isBlankText`) when nothing is left.
-/

set_option autoImplicit false

namespace Rulebook
namespace Text

/-- The code points of the blank characters. -/
def blankRanges : List CodeRange :=
  [(0x09, 0x0d), (0x1c, 0x20), (0x85, 0x85), (0xa0, 0xa0), (0x1680, 0x1680), (0x2000, 0x200a),
    (0x2028, 0x2029), (0x202f, 0x202f), (0x205f, 0x205f), (0x3000, 0x3000)]

/-- Whether a character is blank. -/
def isBlank (c : Char) : Bool := inRanges blankRanges c

/-- The characters left after the blanks at both ends are gone. -/
def trimChars (cs : List Char) : List Char :=
  ((cs.dropWhile isBlank).reverse.dropWhile isBlank).reverse

/-- The text without the blanks at both ends. -/
def trim (s : String) : String := String.ofList (trimChars s.toList)

/-- Whether a text holds nothing but blanks; the empty text does. -/
def isBlankText (s : String) : Bool := s.toList.all isBlank

theorem length_trimChars_le (cs : List Char) : (trimChars cs).length ≤ cs.length := by
  have hfront := (List.dropWhile_sublist (l := cs) isBlank).length_le
  have hback := (List.dropWhile_sublist (l := (cs.dropWhile isBlank).reverse) isBlank).length_le
  rw [List.length_reverse] at hback
  rw [trimChars, List.length_reverse]
  exact Nat.le_trans hback hfront

end Text
end Rulebook
