import Tailoring.Collation
import Tailoring.Fault
import Tailoring.Markup.Place
import Tailoring.Note

/-!
# Collations in locale documents

Locale documents hold collations as `collation` elements. Of its children the
first `settings`, `suppress_contractions`, `optimize` and `rules` count; the
elements of `rules` are the items. Names are compared without namespaces, and
asides are passed over.
-/

set_option autoImplicit false

namespace Tailoring.Ldml

open Markup

/-- Why a collation cannot be taken from a document. -/
inductive Rejection where
  /-- The document is not well formed. -/
  | malformed
  /-- A name has a namespace that is not closed. -/
  | unreadableName
  /-- The collation is missing or faulty. -/
  | fault (fault : Fault)
  deriving DecidableEq

/-- The local names of the elements among nodes. -/
def elementNames (nodes : List Node) : Option (List Text) :=
  (nodes.filter Node.isElement).mapM Node.localName?

/-- The digits of the character references among nodes. -/
def references (nodes : List Node) : List Text :=
  (nodes.filter fun node => node.localName? == some ("cp" : Text)).map fun node =>
    (node.attribute? "hex").getD []

/-- The anchor named by the elements of an item: the first of them, unless it is
a character reference. -/
def anchor? (names : List Text) : Option Text :=
  match names.head? with
  | some name => if name = "cp" then none else some name
  | none => none

mutual

/-- The item that an element stands for; other nodes stand for none. Extended
items have an item for each element in them, and neither text nor anchor. Fails
if a name is unreadable. -/
def item? : Node → Option (Option Item)
  | .element name attributes children => do
      let kind ← localName? name
      let names ← elementNames children
      let codePoints := references children
      let before := attributes.lookup ("before" : Text)
      if kind = "x" then
        let parts ← items? children
        return some { kind, codePoints, before, children := parts }
      else
        let text := Node.charactersOfAll children
        return some { kind, text, codePoints, anchor := anchor? names, before }
  | .text _ => some none
  | .aside => some none

/-- The items that the elements among nodes stand for. -/
def items? : List Node → Option (List Item)
  | [] => some []
  | node :: rest => do
      let item ← item? node
      let items ← items? rest
      return item.toList ++ items

end

/-- Settings from the attributes of an element, by local names. -/
def settings? (attributes : Attributes) : Option Attributes := do
  let named ← attributes.mapM fun (name, value) => do
    let name ← localName? name
    return (name, value)
  return Attributes.ofList named

/-- Adds what an element of a collation says. An element that says nothing new
is passed over. -/
def addPart (collation : Collation) (part : Node) : Option Collation := do
  let name ← part.localName?
  if name = "settings" ∧ collation.settings = none then
    match part with
    | .element _ attributes _ =>
        let settings ← settings? attributes
        return { collation with settings := some settings }
    | _ => return collation
  else if name = "suppress_contractions" ∧ collation.suppressContractions = none then
    return { collation with suppressContractions := some part.characters }
  else if name = "optimize" ∧ collation.optimize = none then
    return { collation with optimize := some part.characters }
  else if name = "rules" ∧ collation.rules = none then
    let items ← items? part.children
    return { collation with rules := some items }
  else return collation

/-- The collation that an element stands for. -/
def collation (element : Node) : Except Rejection Collation :=
  match element.localName? with
  | none => .error .unreadableName
  | some name =>
      if name = "collation" then
        match (element.children.filter Node.isElement).foldlM addPart {} with
        | some collation => .ok collation
        | none => .error .unreadableName
      else .error (.fault (.notCollation name))

/-- The names of the parts that a collation can have. -/
def partNames : List Text :=
  ["settings", "suppress_contractions", "optimize", "rules"]

/-- The names of the parts of a collation that are passed over: those that have
another name, or the name of an earlier part. -/
def skippedNames : List Text → List Text → List Text
  | _, [] => []
  | seen, name :: rest =>
      if partNames.contains name && !seen.contains name then
        skippedNames (name :: seen) rest
      else name :: skippedNames seen rest

/-- The type of a collation that does not name one. -/
def standardType : Text := "standard"

/-- The element is a collation of the given type. -/
def isCollationOf (type : Text) (node : Node) : Bool :=
  node.ownName? == some ("collation" : Text) &&
    (node.attribute? "type").getD standardType == type

/-- Where to find the collation of a type in a document, starting from an element
of it. A start that is itself a collation is the answer, whatever its type;
otherwise it is the first collation of the type anywhere in the document. -/
def find? (type : Text) (root : Node) (start : Place) : Option Place :=
  if (root.at? start).any fun node => node.localName? == some ("collation" : Text) then
    some start
  else (root.elements.find? fun (_, node) => isCollationOf type node).map Prod.fst

/-- The element of the collation of a type in a document. -/
def findElement? (type : Text) (root : Node) : Option Node :=
  (find? type root []).bind root.at?

end Tailoring.Ldml
