import Tailoring.Markup.Finding
import Tailoring.Markup.Uri
import Tailoring.Markup.Value

/-!
# Namespaces

A name in the source of a document may have a short label in front that stands
for a namespace declared on the element or around it. Expanded, it has the
namespace itself in braces in front. A name whose label nobody has declared
stays as it is.
-/

set_option autoImplicit false

namespace Tailoring.Markup

/-- The text is a name without a colon. -/
def isPlainName (t : Text) : Bool :=
  isWholeName t && !t.contains ':'

/-- A name in the source, taken apart at its colon. -/
structure QualifiedName where
  /-- What stands in front of the colon, if there is one. -/
  label : Text
  /-- The name after it. -/
  part : Text
  deriving DecidableEq

namespace QualifiedName

/-- Takes a name apart. It stays whole unless there is one colon with a name on
either side. -/
def ofName (name : Text) : QualifiedName :=
  match Text.cutAt? ':' name with
  | some (label, part) =>
      if isPlainName label && isPlainName part then ⟨label, part⟩ else ⟨[], name⟩
  | none => ⟨[], name⟩

/-- The name in the source. -/
def render (name : QualifiedName) : Text :=
  if name.label = [] then name.part else name.label ++ ":" ++ name.part

/-- What is found in a name: colons in the wrong places. -/
def findings (name : QualifiedName) : List Finding :=
  if name.part.contains ':' then [.error] else []

/-- The label that an attribute with this name declares a namespace for. The empty
label is for elements without one. -/
def declaredLabel? (name : QualifiedName) : Option Text :=
  if name = ⟨[], "xmlns"⟩ then some []
  else if name.label = "xmlns" then some name.part
  else none

end QualifiedName

/-- The namespaces in force, innermost first, by their labels. -/
abbrev Scope := List (Text × Text)

namespace Scope

/-- The namespace that every document knows. -/
def markupNamespace : Text := "http://www.w3.org/XML/1998/namespace"

/-- The namespace of declarations, which no label can stand for. -/
def declarationNamespace : Text := "http://www.w3.org/2000/xmlns/"

/-- The scope around a document. -/
def outermost : Scope :=
  [("xml", markupNamespace)]

/-- A declaration has no effect: it is for a reserved label, it is of a reserved
namespace, or it takes the namespace of a label away. -/
def isIdle (label space : Text) : Bool :=
  label == Text.ofString "xml" || label == Text.ofString "xmlns" || space == markupNamespace ||
    space == declarationNamespace || (label != [] && space == [])

/-- What is found in the address of a namespace. Only for elements without a label
it should be absolute. -/
def addressFindings (label space : Text) : List Finding :=
  match Uri.kind? space with
  | none => [.error]
  | some .absolute => []
  | some .relative => if label = [] ∧ space ≠ [] then [.warning] else []

/-- What is found in a declaration. The label that every document knows may be
declared for what it is. -/
def declarationFindings (label space : Text) : List Finding :=
  if label = "xml" ∧ space = markupNamespace then []
  else if isIdle label space then [.error]
  else addressFindings label space

/-- A name with its namespace in front, if its label is declared. Without a label,
only the names of elements have one. -/
def expand? (scope : Scope) (isElement : Bool) (name : QualifiedName) : Option Text :=
  if name.label = [] ∧ !isElement then some name.part
  else
    match scope.lookup name.label with
    | some [] => some name.part
    | some space => some ("\x7b" ++ space ++ "\x7d" ++ name.part)
    | none => if name.label = [] then some name.part else none

/-- What is found in a name: a label that is not declared. -/
def findings (scope : Scope) (isElement : Bool) (name : QualifiedName) : List Finding :=
  if (scope.expand? isElement name).isNone then [.error] else []

/-- A name as far as it can be expanded. -/
def expand (scope : Scope) (isElement : Bool) (name : QualifiedName) : Text :=
  (scope.expand? isElement name).getD name.render

end Scope

end Tailoring.Markup
