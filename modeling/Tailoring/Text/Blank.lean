import Tailoring.Text.Basic

/-!
# Blanks

The blank code points are the white space of Unicode together with the four
ASCII information separators. Trimming removes them from the ends of a text.
-/

set_option autoImplicit false

namespace Tailoring

/-- White space anywhere in Unicode, or an ASCII information separator. -/
def CodePoint.isBlank (c : CodePoint) : Bool :=
  decide (0x09 ≤ c.val ∧ c.val ≤ 0x0D ∨ 0x1C ≤ c.val ∧ c.val ≤ 0x20 ∨ c.val = 0x85 ∨
    c.val = 0xA0 ∨ c.val = 0x1680 ∨ 0x2000 ≤ c.val ∧ c.val ≤ 0x200A ∨ c.val = 0x2028 ∨
    c.val = 0x2029 ∨ c.val = 0x202F ∨ c.val = 0x205F ∨ c.val = 0x3000)

namespace Text

/-- Drops the blanks at the start. -/
def trimStart (t : Text) : Text :=
  t.dropWhile CodePoint.isBlank

/-- Drops the blanks at the end. -/
def trimEnd (t : Text) : Text :=
  (t.reverse.dropWhile CodePoint.isBlank).reverse

/-- Drops the blanks at both ends. -/
def trim (t : Text) : Text :=
  trimEnd (trimStart t)

end Text

end Tailoring
