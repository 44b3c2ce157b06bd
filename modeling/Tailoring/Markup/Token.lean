import Tailoring.Markup.Declaration

/-!
# Tokens of markup

The source of a document is cut into tokens: tags, characters, references,
comments, instructions and the document type.
-/

set_option autoImplicit false

namespace Tailoring.Markup

/-- The smallest parts of the source of a document. -/
inductive Token where
  /-- The start of an element, which may also be its end. -/
  | start (tag : Text) (attributes : List (Text × List ValuePart)) (closed : Bool)
  /-- The end of an element. -/
  | stop (tag : Text)
  /-- Characters as they stand. -/
  | data (content : Text)
  /-- Characters of a marked section or a reference to a character. -/
  | protectedData (content : Text)
  /-- A reference to text that is declared under a name. -/
  | reference (name : Text)
  /-- A comment. -/
  | comment
  /-- A processing instruction. -/
  | instruction (target : Text)
  /-- The document type, which may also have declarations elsewhere. -/
  | doctype (declarations : List Declaration) (elsewhere : Bool)

end Tailoring.Markup
