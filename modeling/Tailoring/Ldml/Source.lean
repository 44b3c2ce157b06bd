import Tailoring.Ldml

/-!
# Collations from the bytes of a document

The collation of a type, taken from the bytes of a locale document. How bytes are
read as markup is a matter of the parser. The path of the document is only for
messages.
-/

set_option autoImplicit false

namespace Tailoring.Ldml

open Markup

/-- The element of the collation of a type in a document. -/
def element (parse : Parser) (type path : Text) (source : Bytes) :
    Except Rejection Node :=
  match parse source with
  | none => .error .malformed
  | some root =>
      match findElement? type root with
      | some element => .ok element
      | none => .error (.fault (.noCollation type path))

/-- The collation of a type in a document. -/
def load (parse : Parser) (type path : Text) (source : Bytes) :
    Except Rejection Collation := do
  let element ← element parse type path source
  collation element

/-- The notes on taking the collation of a type from a document. -/
def loadNotes (parse : Parser) (type path : Text) (source : Bytes) : List Note :=
  match element parse type path source with
  | .error _ => []
  | .ok element =>
      .collationFound type path ::
        (skippedNames [] ((elementNames element.children).getD [])).map .partSkipped

end Tailoring.Ldml
