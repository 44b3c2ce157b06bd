import Tailoring.Text.Blank
import Tailoring.Text.Hex
import Tailoring.Text.Scalar

/-!
# Literals

Rule data is written in ICU rules as a literal. ICU reserves every ASCII
character that is neither letter nor digit, and every blank; runs of reserved
characters are put between apostrophes, and an apostrophe itself is doubled.
Data that its author has already escaped is left alone.
-/

set_option autoImplicit false

namespace Tailoring

/-- ICU gives this code point a meaning of its own, or drops it as a blank. -/
def CodePoint.isReserved (c : CodePoint) : Bool :=
  decide (c.val < 0x7F) && !c.isAlphanumeric || c.isBlank

/-- A scalar that must be quoted to stand for itself; a surrogate pair never is. -/
def Scalar.isReserved : Scalar → Bool
  | single c => c.isReserved
  | pair _ _ => false

namespace Literal

/-- The apostrophe that ends a quoted span, if one is open. -/
def closing (inSpan : Bool) : Text :=
  if inSpan then [apostrophe] else []

/-- Writes one scalar, given whether a quoted span is open, and says whether one
is open afterwards. A doubled apostrophe neither opens nor closes a span. -/
def writeScalar (inSpan : Bool) (s : Scalar) : Text × Bool :=
  if s.isReserved then
    if s = .single apostrophe then ([apostrophe, apostrophe], inSpan)
    else if inSpan then (s.text, true)
    else (apostrophe :: s.text, true)
  else (closing inSpan ++ s.text, false)

/-- One scalar as a literal of its own. -/
def ofScalar (s : Scalar) : Text :=
  let (written, inSpan) := writeScalar false s
  written ++ closing inSpan

/-- A backslash, a letter and a fixed number of hexadecimal digits stand at the
start of the text. -/
def startsUnicodeEscape (letter : CodePoint) (digits : Nat) (t : Text) : Bool :=
  match t with
  | b :: l :: rest =>
      b == backslash && l == letter && decide (digits ≤ rest.length) &&
        (rest.take digits).all CodePoint.isHexDigit
  | _ => false

/-- How many code points at the start of a text its author has escaped: a
backslash or an opening apostrophe with the reserved code point after it, or a
Unicode escape of eight or four digits. Inside a quoted span an apostrophe
escapes nothing. -/
def escapedLength (inSpan : Bool) (t : Text) : Nat :=
  match t with
  | c :: d :: _ =>
      if (c == backslash || c == apostrophe && !inSpan) && d.isReserved then 2
      else if startsUnicodeEscape 'U' 8 t then 10
      else if startsUnicodeEscape 'u' 4 t then 6
      else 0
  | _ => 0

/-- Writes a text, given how many code points of an escape are still to be
copied and whether a quoted span is open. -/
def writeFrom (copying : Nat) (inSpan : Bool) : Text → Text
  | [] => closing inSpan
  | c :: rest =>
      match copying with
      | remaining + 1 => c :: writeFrom remaining inSpan rest
      | 0 =>
          match escapedLength inSpan (c :: rest) with
          | remaining + 1 => closing inSpan ++ c :: writeFrom remaining false rest
          | 0 =>
              let (written, inSpan') := writeScalar inSpan (.single c)
              written ++ writeFrom 0 inSpan' rest

/-- A text as a literal. -/
def ofText (t : Text) : Text :=
  writeFrom 0 false t

end Literal

end Tailoring
