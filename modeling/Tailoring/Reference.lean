import Tailoring.Fault
import Tailoring.Text.Search

/-!
# Character references

A collation may name characters by their hexadecimal code points: one at a time
in `cp` elements, or several in a row, each introduced by the letter `u`, in
the variable-top setting. Only Unicode scalar values can be named.
-/

set_option autoImplicit false

namespace Tailoring.Reference

/-- The number spelled by hexadecimal digits in the given element. -/
def number (digits element : Text) : Except Fault Nat :=
  match Hex.read? digits with
  | some value => .ok value
  | none => .error (.notHex digits element)

/-- The text of a single scalar value. -/
def character (value : Int) (element : Text) : Except Fault Text :=
  if scalar : 0 ≤ value ∧ value ≤ 0x10FFFF ∧ ¬(0xD800 ≤ value ∧ value ≤ 0xDFFF) then
    .ok [⟨value.toNat, by omega⟩]
  else .error (.notScalar value element)

/-- The text of the scalar value spelled by hexadecimal digits. -/
def decode (digits element : Text) : Except Fault Text := do
  let value ← number digits element
  character value element

/-- The text of a `cp` element; without digits it is empty. -/
def codePoint (digits : Text) : Except Fault Text :=
  if digits = [] then .ok [] else decode digits "cp"

/-- The text of several code points, each introduced by `u`. Nothing between
two introductions stands for nothing. -/
def sequence (value : Text) : Except Fault Text := do
  let spelled := (Text.splitOn 'u' value).filter (· ≠ [])
  let decoded ← spelled.mapM (decode · "settings")
  return decoded.flatten

end Tailoring.Reference
