import Tailoring.Markup.Node

/-!
# Places in a document

A place is the way from the root of a document down to a node: at each step the
number of the child, text not counted. Elements come in document order, each
before its descendants.
-/

set_option autoImplicit false

namespace Tailoring.Markup

/-- Child numbers from the root of a document down to a node. -/
abbrev Place := List Nat

namespace Node

/-- The children that places count. -/
def countedChildren (node : Node) : List Node :=
  node.children.filter fun child => !child.isText

/-- The node at a place. -/
def at? (node : Node) : Place → Option Node
  | [] => some node
  | index :: rest =>
      match node.countedChildren[index]? with
      | some child => child.at? rest
      | none => none

mutual

/-- The elements of a node with their places in document order, the node itself
first. The node is reached by the given steps, last step first. -/
def elementsFrom (steps : Place) : Node → List (Place × Node)
  | element name attributes children =>
      (steps.reverse, element name attributes children) ::
        elementsFromAll steps 0 children
  | text _ => []
  | aside => []

/-- The elements of a list of siblings, the first of which has the given
number. -/
def elementsFromAll (steps : Place) (index : Nat) : List Node → List (Place × Node)
  | [] => []
  | node :: rest =>
      elementsFrom (index :: steps) node ++
        elementsFromAll steps (if node.isText then index else index + 1) rest

end

/-- The elements of a document with their places, in document order. -/
def elements (root : Node) : List (Place × Node) :=
  elementsFrom [] root

end Node

end Tailoring.Markup
