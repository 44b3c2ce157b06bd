import Tailoring.Markup.Character
import Tailoring.Text.Hex
import Tailoring.Text.Search

/-!
# Names and values

The readers of names and of values between quotes. Each takes what it reads from
the start of a text and returns the rest.

A value may refer to characters by number or by one of five names, and to text
that is declared elsewhere by any other name. References to characters are
resolved here; the others stay in the value as parts of it.
-/

set_option autoImplicit false

namespace Tailoring.Markup

/-- Drops the blanks at the start. -/
def skipBlanks (t : Text) : Text :=
  t.dropWhile CodePoint.isMarkupBlank

/-- Drops the blanks at the start, of which there must be one. -/
def skipSomeBlanks? (t : Text) : Option Text :=
  match t with
  | [] => none
  | c :: rest => if c.isMarkupBlank then some (skipBlanks rest) else none

/-- A text without the blanks around it. -/
def trimBlanks (t : Text) : Text :=
  (skipBlanks (skipBlanks t).reverse).reverse

/-- A name. -/
def readName? (t : Text) : Option (Text × Text) :=
  match t with
  | [] => none
  | c :: rest =>
      if c.isNameStart then
        some (c :: rest.takeWhile CodePoint.isName, rest.dropWhile CodePoint.isName)
      else none

/-- The text is a name as a whole. -/
def isWholeName (t : Text) : Bool :=
  (readName? t).any fun (_, rest) => rest.isEmpty

/-- A text between two quotes of either kind. -/
def readQuoted? (t : Text) : Option (Text × Text) :=
  match t with
  | [] => none
  | quote :: rest =>
      if quote = ('"' : CodePoint) ∨ quote = apostrophe then Text.cutAt? quote rest else none

/-- The number spelled by one or more decimal digits. -/
def decimal? (digits : Text) : Option Nat :=
  if digits ≠ [] ∧ digits.all CodePoint.isDigit then
    some (digits.foldl (fun n c => 10 * n + (c.val - 0x30)) 0)
  else none

/-- The character with this number, if a document may hold it. -/
def characterOf? (number : Nat) : Option CodePoint :=
  if inRange : number < 0x110000 then
    let c : CodePoint := ⟨number, inRange⟩
    if c.isMarkup then some c else none
  else none

/-- The names that stand for characters everywhere. -/
def characterNames : List (Text × CodePoint) :=
  [("lt", '<'), ("gt", '>'), ("amp", '&'), ("quot", '"'), ("apos", apostrophe)]

/-- What a reference refers to. -/
inductive Referent where
  /-- A character given by its number. -/
  | numbered (c : CodePoint)
  /-- A character given by its name. -/
  | character (name : Text) (c : CodePoint)
  /-- Text that is declared under a name. -/
  | declared (name : Text)

/-- What a reference refers to, given what it has between ampersand and
semicolon. -/
def referent? (body : Text) : Option Referent :=
  match Text.after? "#x" body, Text.after? "#" body with
  | some digits, _ =>
      if digits = [] then none
      else ((Hex.value? digits).bind characterOf?).map .numbered
  | none, some digits => ((decimal? digits).bind characterOf?).map .numbered
  | none, none =>
      match characterNames.lookup body with
      | some c => some (.character body c)
      | none => if isWholeName body then some (.declared body) else none

/-- A part of a value. -/
inductive ValuePart where
  /-- Characters. -/
  | plain (content : Text)
  /-- A reference to text that is declared under a name. -/
  | named (name : Text)

/-- The parts of a value from its source. What stands in it as it is goes through
a function. -/
def valueParts? (asIs : Text → Text) (source : Text) : Option (List ValuePart) :=
  match Text.splitOn '&' source with
  | [] => some []
  | first :: pieces => do
      let parts ← pieces.mapM fun piece => do
        let (body, rest) ← Text.cutAt? ';' piece
        let part : ValuePart :=
          match ← referent? body with
          | .numbered c => .plain [c]
          | .character _ c => .plain [c]
          | .declared name => .named name
        return [part, .plain (asIs rest)]
      return .plain (asIs first) :: parts.flatten

/-- Blanks in attribute values are spaces. -/
def plainBlanks (t : Text) : Text :=
  t.map fun c => if c.isMarkupBlank then space else c

/-- The parts of the value of an attribute. Blanks become spaces unless they are
given by reference. -/
def attributeParts? (source : Text) : Option (List ValuePart) :=
  if source.contains '<' then none else valueParts? plainBlanks source

/-- The text declared for a name, from its source. Only characters given by their
numbers are resolved; the references by name wait until the text is used. -/
def declaredText? (source : Text) : Option Text :=
  if source.contains '%' then none
  else
    match Text.splitOn '&' source with
    | [] => some []
    | first :: pieces => do
        let resolved ← pieces.mapM fun piece => do
          let (body, rest) ← Text.cutAt? ';' piece
          match ← referent? body with
          | .numbered c => return c :: rest
          | .character name _ => return "&" ++ name ++ ";" ++ rest
          | .declared name => return "&" ++ name ++ ";" ++ rest
        return first ++ resolved.flatten

/-- Reads as long as there is something to read, at most once for each character of
a bound. -/
def readWithin {α : Type} (read? : Text → Option (α × Text)) : Text → Text → List α × Text
  | [], t => ([], t)
  | _ :: bound, t =>
      match read? t with
      | none => ([], t)
      | some (first, rest) =>
          let (others, last) := readWithin read? bound rest
          (first :: others, last)

/-- Reads as long as there is something to read. Every time takes a character, so
the text itself is bound enough. -/
def readMany {α : Type} (read? : Text → Option (α × Text)) (t : Text) : List α × Text :=
  readWithin read? t t

end Tailoring.Markup
