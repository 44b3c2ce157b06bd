/-!
# Text

Text is a finite sequence of Unicode code points. Surrogate code points are
ordinary members of it, alone or in pairs; this is what `String` cannot hold
and what rule data found in the wild may contain.
-/

set_option autoImplicit false

namespace Tailoring

/-- A point of the Unicode code space, surrogates included. -/
abbrev CodePoint := Fin 0x110000

/-- The code space has points, so numerals name them. -/
instance codeSpace_neZero : @NeZero Nat Zero.ofOfNat0 0x110000 :=
  @NeZero.mk Nat Zero.ofOfNat0 0x110000 (by decide)

/-- A finite sequence of code points. -/
abbrev Text := List CodePoint

/-- A finite sequence of bytes, as a file holds it. -/
abbrev Bytes := List UInt8

namespace CodePoint

/-- The code point of a character. -/
def ofChar (c : Char) : CodePoint :=
  ⟨c.toNat, by
    rcases c.valid with low | high
    · exact Nat.lt_trans low (by decide)
    · exact high.2⟩

/-- The character of a code point; surrogates have none. -/
def toChar? (c : CodePoint) : Option Char :=
  if valid : c.val.isValidChar then some (Char.ofNatAux c.val valid) else none

/-- The first half of a surrogate pair. -/
def isHighSurrogate (c : CodePoint) : Bool :=
  decide (0xD800 ≤ c.val ∧ c.val ≤ 0xDBFF)

/-- The second half of a surrogate pair. -/
def isLowSurrogate (c : CodePoint) : Bool :=
  decide (0xDC00 ≤ c.val ∧ c.val ≤ 0xDFFF)

/-- Either half of a surrogate pair. -/
def isSurrogate (c : CodePoint) : Bool :=
  c.isHighSurrogate || c.isLowSurrogate

/-- An ASCII digit. -/
def isDigit (c : CodePoint) : Bool :=
  decide (0x30 ≤ c.val ∧ c.val ≤ 0x39)

/-- An ASCII letter. -/
def isLetter (c : CodePoint) : Bool :=
  decide (0x41 ≤ c.val ∧ c.val ≤ 0x5A ∨ 0x61 ≤ c.val ∧ c.val ≤ 0x7A)

/-- An ASCII letter or digit. -/
def isAlphanumeric (c : CodePoint) : Bool :=
  c.isLetter || c.isDigit

/-- An ASCII capital letter made small; every other code point stays. -/
def toSmall (c : CodePoint) : CodePoint :=
  if 0x41 ≤ c.val ∧ c.val ≤ 0x5A then c + 0x20 else c

end CodePoint

/-- U+0027. -/
def apostrophe : CodePoint := 0x27

/-- U+005C. -/
def backslash : CodePoint := 0x5C

/-- U+0020. -/
def space : CodePoint := 0x20

/-- U+000A. -/
def lineFeed : CodePoint := 0x0A

namespace Text

/-- The code points of a string. -/
def ofString (s : String) : Text :=
  s.toList.map CodePoint.ofChar

/-- The string with these code points; a text with a surrogate has none. -/
def toString? (t : Text) : Option String :=
  (t.mapM CodePoint.toChar?).map String.ofList

/-- The bytes of a text in UTF-8; a text with a surrogate has none. -/
def utf8? (t : Text) : Option Bytes :=
  (toString? t).map fun string => string.toUTF8.data.toList

/-- The decimal digits of a number. -/
def ofNat (n : Nat) : Text :=
  (Nat.toDigits 10 n).map CodePoint.ofChar

end Text

instance : Coe String Text where
  coe := Text.ofString

instance : Coe Char CodePoint where
  coe := CodePoint.ofChar

end Tailoring
