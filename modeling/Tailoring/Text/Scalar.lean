import Tailoring.Text.Basic

/-!
# Scalars

A text is read as scalars: a high surrogate followed by a low one counts as one
scalar, every other code point stands alone. This is how UTF-16 reads it.
-/

set_option autoImplicit false

namespace Tailoring

/-- One code point, or the two halves of a surrogate pair. -/
inductive Scalar where
  | single (c : CodePoint)
  | pair (high low : CodePoint)
  deriving DecidableEq, Repr

namespace Scalar

/-- The code points that a scalar is written with. -/
def text : Scalar → Text
  | single c => [c]
  | pair high low => [high, low]

/-- The number of a scalar; a surrogate pair encodes one above U+FFFF. -/
def codePoint : Scalar → Nat
  | single c => c.val
  | pair high low => 0x10000 + (high.val - 0xD800) * 0x400 + (low.val - 0xDC00)

end Scalar

/-- The scalars of a text, in order. -/
def Text.scalars : Text → List Scalar
  | [] => []
  | [c] => [.single c]
  | c :: d :: rest =>
      if c.isHighSurrogate && d.isLowSurrogate then .pair c d :: Text.scalars rest
      else .single c :: Text.scalars (d :: rest)

end Tailoring
