import Tailoring.Text.Basic

/-!
# Hexadecimal numbers

Reading and writing numbers in base sixteen. Reading is strict about the digits,
takes either letter case, and lets one line feed stand at the end.
-/

set_option autoImplicit false

namespace Tailoring

/-- The value of an ASCII hexadecimal digit. -/
def CodePoint.hexValue? (c : CodePoint) : Option Nat :=
  if 0x30 ≤ c.val ∧ c.val ≤ 0x39 then some (c.val - 0x30)
  else if 0x41 ≤ c.val ∧ c.val ≤ 0x46 then some (c.val - 0x37)
  else if 0x61 ≤ c.val ∧ c.val ≤ 0x66 then some (c.val - 0x57)
  else none

/-- An ASCII hexadecimal digit. -/
def CodePoint.isHexDigit (c : CodePoint) : Bool :=
  c.hexValue?.isSome

namespace Hex

/-- The number spelled by digits alone, most significant first. -/
def value? (digits : Text) : Option Nat :=
  digits.foldlM (fun n c => (CodePoint.hexValue? c).map (16 * n + ·)) 0

/-- The number spelled by one or more digits, after which one line feed may
stand. -/
def read? (t : Text) : Option Nat :=
  let digits := if t.getLast? = some lineFeed then t.dropLast else t
  if digits = [] then none else value? digits

/-- The digits of a number, letters as capitals. -/
def ofNat (n : Nat) : Text :=
  (Nat.toDigits 16 n).map fun c => CodePoint.ofChar c.toUpper

/-- The digits of an integer after its sign; only a minus is written. -/
def ofInt : Int → Text
  | .ofNat n => ofNat n
  | .negSucc n => "-" ++ ofNat (n + 1)

/-- The small digits of a number, filled with zeros to a width. -/
def padded (width n : Nat) : Text :=
  let digits := (Nat.toDigits 16 n).map CodePoint.ofChar
  List.replicate (width - digits.length) ('0' : CodePoint) ++ digits

end Hex

end Tailoring
