import Tailoring.Text.Basic

/-!
# Characters of markup

Which code points a document may hold, and which of them are blanks, make up names
and make up public identifiers.
-/

set_option autoImplicit false

namespace Tailoring.CodePoint

/-- A code point that may stand in a document. -/
def isMarkup (c : CodePoint) : Bool :=
  decide (c.val = 0x09 ∨ c.val = 0x0A ∨ c.val = 0x0D ∨ 0x20 ≤ c.val ∧ c.val ≤ 0xD7FF ∨
    0xE000 ≤ c.val ∧ c.val ≤ 0xFFFD ∨ 0x10000 ≤ c.val)

/-- A blank between parts of markup. -/
def isMarkupBlank (c : CodePoint) : Bool :=
  decide (c.val = 0x09 ∨ c.val = 0x0A ∨ c.val = 0x0D ∨ c.val = 0x20)

/-- A code point that a name may start with. -/
def isNameStart (c : CodePoint) : Bool :=
  c.isLetter ||
    decide (c.val = 0x3A ∨ c.val = 0x5F ∨ 0xC0 ≤ c.val ∧ c.val ≤ 0xD6 ∨
      0xD8 ≤ c.val ∧ c.val ≤ 0xF6 ∨ 0xF8 ≤ c.val ∧ c.val ≤ 0x2FF ∨
      0x370 ≤ c.val ∧ c.val ≤ 0x37D ∨ 0x37F ≤ c.val ∧ c.val ≤ 0x1FFF ∨
      0x200C ≤ c.val ∧ c.val ≤ 0x200D ∨ 0x2070 ≤ c.val ∧ c.val ≤ 0x218F ∨
      0x2C00 ≤ c.val ∧ c.val ≤ 0x2FEF ∨ 0x3001 ≤ c.val ∧ c.val ≤ 0xD7FF ∨
      0xF900 ≤ c.val ∧ c.val ≤ 0xFDCF ∨ 0xFDF0 ≤ c.val ∧ c.val ≤ 0xFFFD ∨
      0x10000 ≤ c.val ∧ c.val ≤ 0xEFFFF)

/-- A code point that may stand inside a name. -/
def isName (c : CodePoint) : Bool :=
  c.isNameStart || c.isDigit ||
    decide (c.val = 0x2D ∨ c.val = 0x2E ∨ c.val = 0xB7 ∨ 0x300 ≤ c.val ∧ c.val ≤ 0x36F ∨
      0x203F ≤ c.val ∧ c.val ≤ 0x2040)

/-- A code point that the public identifier of a document type may have. -/
def isPublicId (c : CodePoint) : Bool :=
  c.isAlphanumeric || decide (c.val = 0x0A ∨ c.val = 0x0D) ||
    (Text.ofString " -'()+,./:=?;!*#@$_%").contains c

end Tailoring.CodePoint
