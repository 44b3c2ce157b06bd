import Tailoring.Markup.Glossary
import Tailoring.Markup.Namespace
import Tailoring.Markup.Node

/-!
# Starting elements

How the tag at the start of an element becomes an element: the values of its
attributes are put together, declarations of namespaces take effect, attributes
that are declared for it are added, and all names are expanded.
-/

set_option autoImplicit false

namespace Tailoring.Markup

/-- An element whose end has not been seen. -/
structure OpenElement where
  /-- The tag as it stands in the source. -/
  tag : Text
  /-- The expanded name. -/
  name : Text
  /-- The attributes, with expanded names. -/
  attributes : Attributes
  /-- The namespaces in force inside. -/
  scope : Scope
  /-- The children so far, last first. -/
  children : List Node := []

/-- The element once its end has been seen. -/
def OpenElement.close (element : OpenElement) : Node :=
  .element element.name element.attributes element.children.reverse

/-- An attribute of an element that is being started. -/
structure GivenAttribute where
  /-- The name as it stands in the source. -/
  name : QualifiedName
  /-- The value. -/
  value : Text
  /-- The value is for one element only. -/
  identifies : Bool

/-- An element that is being started. -/
structure Opening where
  /-- The namespaces in force. -/
  scope : Scope
  /-- The labels that the element itself declares. -/
  labels : List Text := []
  /-- The attributes that are not declarations of namespaces. -/
  attributes : List GivenAttribute := []
  /-- What has been found. -/
  findings : List Finding := []

namespace Opening

/-- The name of the attribute that always identifies. -/
def identifier : QualifiedName := ⟨"xml", "id"⟩

/-- The name of the attribute that tells what blanks mean. -/
def blankness : QualifiedName := ⟨"xml", "space"⟩

/-- What is found in an attribute that tells what blanks mean. -/
def blanknessFindings (name : QualifiedName) (value : Text) : List Finding :=
  if name = blankness ∧ value ≠ "default" ∧ value ≠ "preserve" then [.warning] else []

/-- Words with one space between them. -/
def unifySpaces (t : Text) : Text :=
  Text.join " " ((Text.splitOn space t).filter (· ≠ []))

/-- A value as its kind has it. -/
def normalize (kind : AttributeKind) (value : Text) : Text :=
  if kind = .free then value else unifySpaces value

/-- Adds findings. -/
def withFindings (opening : Opening) (findings : List Finding) : Opening :=
  { opening with findings := opening.findings ++ findings }

/-- Adds an attribute. -/
def withAttribute (opening : Opening) (given : GivenAttribute) : Opening :=
  { opening with attributes := opening.attributes ++ [given] }

/-- Declares a namespace. -/
def declare (opening : Opening) (label space : Text) : Opening :=
  { opening with scope := (label, space) :: opening.scope, labels := label :: opening.labels }

/-- Takes in an attribute in the source of the tag. No namespace is declared
twice. -/
def give? (glossary : Glossary) (rules : List AttributeRule) (opening : Opening)
    (source : Text × List ValuePart) : Option Opening := do
  let name := QualifiedName.ofName source.1
  let rule := rules.find? fun rule => rule.name = source.1
  let kind := (rule.map AttributeRule.kind).getD .free
  let (text, findings) ← glossary.value? source.2
  let value := normalize kind text
  let opening := opening.withFindings
    (name.findings ++ findings ++ blanknessFindings name value)
  match name.declaredLabel? with
  | some label =>
      let opening := opening.withFindings (Scope.declarationFindings label value)
      if Scope.isIdle label value then return opening
      else if opening.labels.contains label then none
      else return opening.declare label value
  | none =>
      let identifies := (decide (name = identifier) || decide (kind = .identifier)) &&
        (glossary.knownIn source.2).isEmpty
      return opening.withAttribute { name, value, identifies }

/-- The attributes that rules add to an element. -/
def presets? (glossary : Glossary) (rules : List AttributeRule) :
    Option (List GivenAttribute) := do
  let presets ← rules.mapM fun rule => do
    match rule.preset with
    | none => return none
    | some parts =>
        let name := QualifiedName.ofName rule.name
        let (text, _) ← glossary.value? parts
        let value := normalize rule.kind text
        let identifies := (decide (name = identifier) || decide (rule.kind = .identifier)) &&
          (glossary.knownIn parts).isEmpty
        return some { name, value, identifies }
  return presets.filterMap id

/-- Takes in the namespace that a rule declares, unless the element does. -/
def presetScope (opening : Opening) (preset : GivenAttribute) : Opening :=
  match preset.name.declaredLabel? with
  | some label =>
      if Scope.isIdle label preset.value || opening.labels.contains label then opening
      else opening.declare label preset.value
  | none => opening

/-- Checks the names of the attributes. With their labels as they stand no name
comes twice; expanded, a name that comes twice is an error. -/
def checkNames? (opening : Opening) : Option Opening :=
  let names := opening.attributes.map GivenAttribute.name
  let isKnown (name : QualifiedName) : Bool := (opening.scope.expand? false name).isSome
  let known := names.filter isKnown
  let unknown := names.filter fun name => !isKnown name
  let expanded := known.map (opening.scope.expand false)
  let repeated := expanded.length - expanded.eraseDups.length
  if known.Nodup ∧ (unknown.Nodup ∨ repeated ≤ 1) then
    some (opening.withFindings
      (names.flatMap (opening.scope.findings false) ++ List.replicate repeated .error))
  else none

/-- Takes in the attribute that a rule adds, unless the element has it. -/
def presetAttribute (opening : Opening) (preset : GivenAttribute) : Opening :=
  let names := opening.attributes.map GivenAttribute.name
  if preset.name.declaredLabel?.isSome || names.contains preset.name then opening
  else
    let expanded := names.map (opening.scope.expand false)
    let repetition : List Finding :=
      if expanded.contains (opening.scope.expand false preset.name) then [.error] else []
    (opening.withAttribute preset).withFindings
      (opening.scope.findings false preset.name ++ repetition)

/-- Reads the attributes of a tag. -/
def read? (glossary : Glossary) (rules : List AttributeRule) (scope : Scope)
    (sources : List (Text × List ValuePart)) : Option Opening := do
  let start : Opening := { scope }
  let given ← sources.foldlM (give? glossary rules) start
  let presets ← presets? glossary rules
  let checked ← (presets.foldl presetScope given).checkNames?
  return presets.foldl presetAttribute checked

/-- The attributes with expanded names. Of those with one name the first counts. -/
def expandedAttributes (opening : Opening) : Attributes :=
  opening.attributes.foldl (fun expanded given =>
    let name := opening.scope.expand false given.name
    if (expanded.lookup name).isSome then expanded else expanded ++ [(name, given.value)]) []

/-- The element that a tag starts, and what has been found in the tag. -/
def finish (opening : Opening) (tag : Text) : OpenElement × List Finding :=
  let name := QualifiedName.ofName tag
  ({ tag
     name := opening.scope.expand true name
     attributes := opening.expandedAttributes
     scope := opening.scope },
    name.findings ++ opening.findings ++ opening.scope.findings true name)

/-- Takes in a value that identifies an element, given those of the elements
before. It is a name without a colon, if it is not declared otherwise, and no
other element has it. -/
def identify (known : List Text) (given : GivenAttribute) : List Text × List Finding :=
  let isSound : Bool := decide (given.name ≠ identifier) || isPlainName (trimBlanks given.value)
  let isNew : Bool := !given.value.isEmpty && !known.contains given.value
  let findings : List Finding :=
    (if isSound then [] else [.error]) ++ if isNew then [] else [.error]
  (if isNew then given.value :: known else known, findings)

end Opening

end Tailoring.Markup
