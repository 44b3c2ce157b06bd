import Tailoring.Text.Search

/-!
# Marked-up documents

A document is a tree of elements with text between them. The name of an element
or attribute may carry a namespace in braces in front; what is left without it
is the local name.

Comments, processing instructions and references that have not been resolved are
asides: they have a place among the children of an element and nothing else.
-/

set_option autoImplicit false

namespace Tailoring.Markup

/-- Names and values, each name once. -/
abbrev Attributes := List (Text × Text)

namespace Attributes

/-- Sets the value of a name. A new name goes to the end, a known one keeps its
place. -/
def insert (name value : Text) : Attributes → Attributes
  | [] => [(name, value)]
  | (key, old) :: rest =>
      if key = name then (key, value) :: rest else (key, old) :: insert name value rest

/-- The attributes set by a list of names and values, from first to last. -/
def ofList (pairs : List (Text × Text)) : Attributes :=
  pairs.foldl (fun attributes (name, value) => insert name value attributes) []

end Attributes

/-- A part of a document. -/
inductive Node where
  /-- An element with its attributes and children. -/
  | element (name : Text) (attributes : Attributes) (children : List Node)
  /-- Characters between elements. -/
  | text (content : Text)
  /-- A comment, a processing instruction or an unresolved reference. -/
  | aside

/-- A way to read the bytes of a document: its outermost element, if the document is
well formed. -/
abbrev Parser := Bytes → Option Node

/-- A name without its namespace, which is taken to end at the first closing brace.
A namespace that is not closed makes the name unreadable. -/
def localName? (name : Text) : Option Text :=
  if name.head? = some ('\x7b' : CodePoint) then
    (Text.cutAt? '\x7d' name).map Prod.snd
  else some name

/-- A name without its namespace, which may have closing braces in it: a name itself
has none, so the last one closes the namespace. -/
def ownName (name : Text) : Text :=
  if name.head? = some ('\x7b' : CodePoint) then
    (name.reverse.takeWhile (· != ('\x7d' : CodePoint))).reverse
  else name

namespace Node

/-- The node is an element. -/
def isElement : Node → Bool
  | element _ _ _ => true
  | text _ => false
  | aside => false

/-- The node is characters. -/
def isText : Node → Bool
  | element _ _ _ => false
  | text _ => true
  | aside => false

/-- The local name of an element. -/
def localName? : Node → Option Text
  | element name _ _ => Markup.localName? name
  | text _ => none
  | aside => none

/-- The name of an element without its namespace, whatever that is. -/
def ownName? : Node → Option Text
  | element name _ _ => some (Markup.ownName name)
  | text _ => none
  | aside => none

/-- The value of an attribute of an element. -/
def attribute? (name : Text) : Node → Option Text
  | element _ attributes _ => attributes.lookup name
  | text _ => none
  | aside => none

/-- The children of an element. -/
def children : Node → List Node
  | element _ _ children => children
  | text _ => []
  | aside => []

mutual

/-- All characters in a node, at any depth. -/
def characters : Node → Text
  | element _ _ children => charactersOfAll children
  | text content => content
  | aside => []

/-- All characters in a list of nodes, at any depth. -/
def charactersOfAll : List Node → Text
  | [] => []
  | node :: rest => characters node ++ charactersOfAll rest

end

end Node

end Tailoring.Markup
