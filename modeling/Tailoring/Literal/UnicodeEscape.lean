import Tailoring.Fault
import Tailoring.Literal

/-!
# Decoding Unicode escapes

Rule text may carry code points as escapes of eight or four hexadecimal digits.
Decoding puts the code points in their place: all long escapes first, then the
short ones of what results.
-/

set_option autoImplicit false

namespace Tailoring.Literal

/-- The code point that an escape stands for. -/
def decodeEscape (escape : Text) : Except Fault CodePoint :=
  match Hex.value? (escape.drop 2) with
  | some value =>
      if inRange : value < 0x110000 then .ok ⟨value, inRange⟩
      else .error (.escapeRange escape)
  | none => .error (.escapeRange escape)

/-- Replaces every escape with this letter and number of digits, from left to
right, given how many code points of an escape are still to be passed over. -/
def decodeFrom (letter : CodePoint) (digits : Nat) (passing : Nat) :
    Text → Except Fault Text
  | [] => .ok []
  | c :: rest =>
      match passing with
      | remaining + 1 => decodeFrom letter digits remaining rest
      | 0 =>
          if startsUnicodeEscape letter digits (c :: rest) then do
            let decoded ← decodeEscape ((c :: rest).take (digits + 2))
            let decodedRest ← decodeFrom letter digits (digits + 1) rest
            return decoded :: decodedRest
          else do
            let decodedRest ← decodeFrom letter digits 0 rest
            return c :: decodedRest

/-- Replaces every Unicode escape by the code point that it encodes. -/
def decodeEscapes (t : Text) : Except Fault Text := do
  let decoded ← decodeFrom 'U' 8 0 t
  decodeFrom 'u' 4 0 decoded

end Tailoring.Literal
