import Tailoring.Text.Basic

/-!
# Encodings

How the bytes of a document are read as text. Of the encodings with one byte for a
character only the first half of the bytes is known, and of Latin-1 all; those with
more bytes are UTF-8.
-/

set_option autoImplicit false

namespace Tailoring.Markup

/-- How the characters of a document are written as bytes. -/
inductive Encoding where
  /-- One to four bytes a character. -/
  | utf8
  /-- One byte a character, the first half of the bytes only. -/
  | ascii
  /-- One byte a character, with its number. -/
  | latin1
  deriving DecidableEq

namespace Encoding

/-- The names of encodings that extend the first half of the bytes in ways of their
own. Only that half of them is known. -/
def extensions : List Text :=
  let family (stem : Text) (members : List Nat) : List Text :=
    members.map fun member => stem ++ Text.ofNat member
  family "iso-8859-" [2, 3, 4, 5, 6, 7, 8, 9, 10, 11, 13, 14, 15, 16] ++
    family "windows-125" [0, 1, 2, 3, 4, 5, 6, 7, 8]

/-- The names of an encoding in small letters. -/
def names : Encoding → List Text
  | utf8 => ["utf-8", "utf8"]
  | ascii => Text.ofString "us-ascii" :: Text.ofString "ascii" :: extensions
  | latin1 => ["iso-8859-1", "iso8859-1", "iso_8859-1", "iso-latin-1", "latin1", "l1", "cp819"]

/-- The encoding with a name, in letters of either case. -/
def ofName? (name : Text) : Option Encoding :=
  [utf8, ascii, latin1].find? fun encoding =>
    encoding.names.contains (name.map CodePoint.toSmall)

/-- The code points that have the numbers of the bytes. -/
def numbered (bytes : Bytes) : Text :=
  bytes.map fun byte => ⟨byte.toNat, by have := byte.toNat_lt; omega⟩

/-- The text of bytes in an encoding. -/
def decode? (encoding : Encoding) (bytes : Bytes) : Option Text :=
  match encoding with
  | utf8 => (String.fromUTF8? ⟨bytes.toArray⟩).map Text.ofString
  | ascii =>
      if (numbered bytes).all fun c => decide (c.val < 0x80) then some (numbered bytes) else none
  | latin1 => some (numbered bytes)

end Encoding

end Tailoring.Markup
