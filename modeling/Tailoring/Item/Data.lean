import Tailoring.Item

/-!
# The data of an item

What an item is about, as plain text and as an ICU literal. Character references
win over literal text, and an anchor wins over both in ICU rules.
-/

set_option autoImplicit false

namespace Tailoring

/-- An anchor as a position of ICU. Two positions have another name there; the
other names are the same with blanks in place of underscores. -/
def Anchor.position (name : Text) : Text :=
  if name = "first_non_ignorable" then "[first regular]"
  else if name = "last_non_ignorable" then "[last regular]"
  else "[" ++ Text.replace '_' ' ' name ++ "]"

/-- The positions of a strength before which a reset can lie. -/
def beforeOptions : List (Text × Text) :=
  [("primary", "[before 1] "), ("secondary", "[before 2] "), ("tertiary", "[before 3] ")]

namespace Item

/-- The characters of an item: its references, or its text if they name none. -/
def data (item : Item) : Except Fault Text := do
  let referenced ← item.codePoints.mapM Reference.codePoint
  return if referenced.flatten = [] then item.text else referenced.flatten

/-- The data of an item as it stands in ICU rules. -/
def literal (item : Item) : Except Fault Text :=
  if item.isEmpty then .error (.emptyRule item.kind)
  else
    match item.anchor with
    | some name => .ok (Anchor.position name)
    | none => item.data.map Literal.ofText

/-- The option that a reset carries for what it lies before. -/
def beforeOption (item : Item) : Except Fault Text :=
  match item.before with
  | none => .ok []
  | some [] => .ok []
  | some value =>
      match beforeOptions.lookup value with
      | some option => .ok option
      | none => .error (.unknownBefore value item.kind)

end Item

end Tailoring
