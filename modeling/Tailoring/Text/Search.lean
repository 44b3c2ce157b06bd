import Tailoring.Text.Basic

/-!
# Searching and cutting text

Where a text occurs in another, and cutting a text at a code point.
-/

set_option autoImplicit false

namespace Tailoring.Text

/-- The pieces between the occurrences of a separator, empty pieces included. -/
def splitOn (separator : CodePoint) : Text → List Text
  | [] => [[]]
  | c :: rest =>
      if c = separator then [] :: splitOn separator rest
      else
        match splitOn separator rest with
        | [] => [[c]]
        | piece :: pieces => (c :: piece) :: pieces

/-- The parts before and after the first occurrence of a code point. -/
def cutAt? (c : CodePoint) (t : Text) : Option (Text × Text) :=
  match t.dropWhile (· != c) with
  | [] => none
  | _ :: after => some (t.takeWhile (· != c), after)

/-- Where the last occurrence of a text starts. The empty text occurs last at
the very end. -/
def lastIndexOf? (needle : Text) : Text → Option Nat
  | [] => if needle = [] then some 0 else none
  | c :: rest =>
      match lastIndexOf? needle rest with
      | some index => some (index + 1)
      | none => if needle.isPrefixOf (c :: rest) then some 0 else none

/-- Where the first occurrence of a text starts. -/
def firstIndexOf? (needle : Text) : Text → Option Nat
  | [] => if needle = [] then some 0 else none
  | c :: rest =>
      if needle.isPrefixOf (c :: rest) then some 0
      else (firstIndexOf? needle rest).map (· + 1)

/-- The parts before and after the first occurrence of a text. -/
def cutAtText? (needle t : Text) : Option (Text × Text) :=
  (firstIndexOf? needle t).map fun index => (t.take index, t.drop (index + needle.length))

/-- What follows a text at the start of another. -/
def after? : Text → Text → Option Text
  | [], t => some t
  | _ :: _, [] => none
  | c :: needle, d :: t => if c = d then after? needle t else none

/-- Texts one after the other with a separator between them. -/
def join (separator : Text) (texts : List Text) : Text :=
  separator.intercalate texts

/-- Every occurrence of one code point replaced by another. -/
def replace (old new : CodePoint) (t : Text) : Text :=
  t.map fun c => if c = old then new else c

end Tailoring.Text
