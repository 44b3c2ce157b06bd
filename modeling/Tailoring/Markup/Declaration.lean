import Tailoring.Markup.Value

/-!
# Declarations

The type of a document may hold declarations: text under a name, attributes that
elements have without being given any, and rules on what elements may contain.
The last kind is read and has no effect.
-/

set_option autoImplicit false

namespace Tailoring.Markup

/-- What is declared under a name. -/
inductive Definition where
  /-- Text. -/
  | text (replacement : Text)
  /-- Text that is kept elsewhere. -/
  | elsewhere
  /-- Data of another kind. -/
  | foreign

/-- What kind of values an attribute has. -/
inductive AttributeKind where
  /-- Any text. -/
  | free
  /-- A name that no other element has. -/
  | identifier
  /-- Words with a space between them. -/
  | words
  deriving DecidableEq

/-- A declared attribute. -/
structure AttributeRule where
  /-- The name as it stands in the source. -/
  name : Text
  /-- The kind of its values. -/
  kind : AttributeKind
  /-- The value of elements that are given none. -/
  preset : Option (List ValuePart)

/-- A declaration in the type of a document. -/
inductive Declaration where
  /-- Something that the document may refer to. -/
  | general (name : Text) (definition : Definition)
  /-- Something that declarations may refer to. -/
  | parameter (name : Text) (definition : Definition)
  /-- Attributes of the elements with a name. -/
  | attributes (element : Text) (rules : List AttributeRule)
  /-- What the elements with a name contain. -/
  | content
  /-- A format of foreign data. -/
  | format (name : Text)
  /-- A comment. -/
  | comment
  /-- An instruction. -/
  | instruction (target : Text)
  /-- The declarations that a parameter stands for. -/
  | reference (name : Text)

end Tailoring.Markup
