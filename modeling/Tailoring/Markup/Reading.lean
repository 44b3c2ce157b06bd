import Tailoring.Markup.Element
import Tailoring.Markup.Token.Reader

/-!
# Putting tokens together

A document is read by putting its tokens together: every start has its end, and
there is one outermost element. Text that is declared under a name must be put
together just so, by itself, when it is first referred to; in the document there
is only the reference.
-/

set_option autoImplicit false

namespace Tailoring.Markup

/-- A document read in part. -/
structure Reading where
  /-- The length of the document. -/
  length : Nat
  /-- The document says that it declares all its names itself. -/
  standalone : Bool := false
  /-- The document type has been seen. -/
  typed : Bool := false
  /-- The names that the document may refer to. -/
  glossary : Glossary := {}
  /-- What references to them cost. -/
  costs : List (Text × Nat) := []
  /-- The names that declarations may refer to. -/
  parameters : List (Text × Definition) := []
  /-- The declared attributes with the elements that have them. -/
  rules : List (Text × AttributeRule) := []
  /-- What all references so far have cost. -/
  spent : Nat := 0
  /-- The names whose text has been put together. -/
  seenNames : List Text := []
  /-- The values that identify elements. -/
  identifiers : List Text := []
  /-- What has been found. -/
  findings : Findings := {}
  /-- The elements that are open, innermost first. -/
  openElements : List OpenElement := []
  /-- The outermost element, once closed. -/
  root : Option Node := none

namespace Reading

/-- How many elements may be open. -/
def maximalDepth : Nat := 256

/-- Puts findings on record. -/
def withFindings (reading : Reading) (findings : List Finding) : Reading :=
  { reading with findings := reading.findings.addAll findings }

/-- Pays for references to names, unless they are too much for the document. -/
def pay? (reading : Reading) (costs : List (Text × Nat)) (names : List Text) : Option Reading :=
  let spent := names.foldl (fun spent name => spent + Glossary.cost costs name) reading.spent
  if Glossary.isExcessive spent reading.length then none else some { reading with spent }

/-! ## Declarations -/

/-- The name is one of those with which instructions may start like the
declaration of a document. -/
def isKnownInstruction (target : Text) : Bool :=
  target == Text.ofString "xml-stylesheet" || target == Text.ofString "xml-model"

/-- What is found in an instruction. -/
def instructionFindings (target : Text) : List Finding :=
  let isReserved := (Text.ofString "xml").isPrefixOf (target.map CodePoint.toSmall)
  (if isReserved && !isKnownInstruction target then [.warning] else []) ++
    if target.contains ':' then [.error] else []

/-- What is found in the name of something declared: colons. -/
def nameFindings (name : Text) : List Finding :=
  if name.contains ':' then [.error] else []

/-- A name that stands for a character everywhere can only be declared as what it
is. -/
def isRedeclared (name : Text) (definition : Definition) : Bool :=
  match characterNames.lookup name, definition with
  | none, _ => false
  | some c, .text replacement =>
      let isItself := decide (replacement = [c]) && c != '<' && c != '&'
      let isNumbered :=
        match (Text.after? "&" replacement).bind (Text.cutAt? ';') with
        | some (body, []) =>
            match referent? body with
            | some (.numbered d) => decide (d = c)
            | _ => false
        | _ => false
      !isItself && !isNumbered
  | some _, _ => true

/-- Declares a name that the document may refer to. The first declaration counts. -/
def declareName (reading : Reading) (name : Text) (definition : Definition) : Reading :=
  let redeclared : List Finding := if isRedeclared name definition then [.error] else []
  let reading := reading.withFindings (nameFindings name ++ redeclared)
  if (reading.glossary.definitions.lookup name).isSome then reading
  else
    let definitions := reading.glossary.definitions ++ [(name, definition)]
    { reading with glossary := { reading.glossary with definitions } }

/-- Declares a name that declarations may refer to. The first declaration counts. -/
def declareParameter (reading : Reading) (name : Text) (definition : Definition) : Reading :=
  let reading := reading.withFindings (nameFindings name)
  if (reading.parameters.lookup name).isSome then reading
  else { reading with parameters := reading.parameters ++ [(name, definition)] }

/-- The declared attributes of the elements with a tag. -/
def rulesFor (reading : Reading) (tag : Text) : List AttributeRule :=
  (reading.rules.filter fun (element, _) => element = tag).map Prod.snd

/-- What is found in a declared attribute: the one that always identifies is
declared to do something else. -/
def ruleFindings (rule : AttributeRule) : List Finding :=
  if QualifiedName.ofName rule.name = Opening.identifier ∧ rule.kind ≠ .identifier then [.error]
  else []

/-- Declares an attribute of the elements with a tag. The first declaration
counts. -/
def declareAttribute? (element : Text) (reading : Reading) (rule : AttributeRule) :
    Option Reading := do
  let parts := rule.preset.getD []
  let names := reading.glossary.knownIn parts
  let reading ←
    if names = [] then some reading else reading.pay? reading.glossary.costs names
  let (_, findings) ← reading.glossary.value? parts
  let reading := reading.withFindings (findings ++ ruleFindings rule)
  if (reading.rulesFor element).any fun known => known.name = rule.name then return reading
  else return { reading with rules := reading.rules ++ [(element, rule)] }

/-- Refers to declarations under a name. From now on names may be declared where
they are not looked for. -/
def referToParameter? (declareAll? : Reading → List Declaration → Option Reading)
    (reading : Reading) (name : Text) : Option Reading :=
  let incomplete := !reading.standalone
  let reading := { reading with glossary := { reading.glossary with incomplete } }
  match reading.parameters.lookup name with
  | none => reading.glossary.missing?.map reading.withFindings
  | some (.text replacement) => (declarations? replacement).bind (declareAll? reading)
  | some .elsewhere => some reading
  | some .foreign => some reading

/-- Takes in one declaration. -/
def declare? (declareAll? : Reading → List Declaration → Option Reading) (reading : Reading)
    (declaration : Declaration) : Option Reading :=
  match declaration with
  | .general name definition => some (reading.declareName name definition)
  | .parameter name definition => some (reading.declareParameter name definition)
  | .attributes element rules => rules.foldlM (declareAttribute? element) reading
  | .content => some reading
  | .format name => some (reading.withFindings (nameFindings name))
  | .comment => some reading
  | .instruction target => some (reading.withFindings (instructionFindings target))
  | .reference name => reading.referToParameter? declareAll? name

/-- Takes in declarations, with references among them up to a depth. -/
def declareAll? : Nat → Reading → List Declaration → Option Reading
  | 0, _, _ => none
  | depth + 1, reading, declarations =>
      declarations.foldlM (declare? (declareAll? depth)) reading

/-- Takes in the document type, which comes once and before the outermost
element. -/
def takeType? (reading : Reading) (declarations : List Declaration) (elsewhere : Bool) :
    Option Reading :=
  if reading.openElements.isEmpty && reading.root.isNone && !reading.typed then do
    let incomplete := elsewhere && !reading.standalone
    let start := { reading with
      typed := true
      glossary := { reading.glossary with incomplete } }
    let declared ← declareAll? (Glossary.maximalDepth + 1) start declarations
    return { declared with costs := declared.glossary.costs }
  else none

/-! ## Elements and characters -/

/-- Adds a node to the innermost open element. -/
def add? (reading : Reading) (node : Node) : Option Reading :=
  match reading.openElements with
  | [] => none
  | innermost :: outer =>
      some { reading with
        openElements := { innermost with children := node :: innermost.children } :: outer }

/-- Opens an element inside those that are open. -/
def enter? (reading : Reading) (element : OpenElement) : Option Reading :=
  if reading.openElements.length < maximalDepth then
    some { reading with openElements := element :: reading.openElements }
  else none

/-- Closes the innermost element. -/
def leave? (reading : Reading) : Option Reading :=
  match reading.openElements, reading.root with
  | innermost :: next :: outer, _ =>
      { reading with openElements := next :: outer }.add? innermost.close
  | [outermost], none => some { reading with openElements := [], root := some outermost.close }
  | [_], some _ => none
  | [], _ => none

/-- Takes in a value that identifies an element. -/
def identify (reading : Reading) (given : GivenAttribute) : Reading :=
  if given.identifies then
    let (identifiers, findings) := Opening.identify reading.identifiers given
    { reading with identifiers }.withFindings findings
  else reading

/-- Starts an element. There is one outermost element. -/
def start? (reading : Reading) (tag : Text) (sources : List (Text × List ValuePart)) :
    Option Reading := do
  let scope := (reading.openElements.head?.map OpenElement.scope).getD Scope.outermost
  let rules := reading.rulesFor tag
  let parts := (sources.map Prod.snd).flatten ++ (rules.filterMap AttributeRule.preset).flatten
  let reading ← reading.pay? reading.costs (reading.glossary.knownIn parts)
  let opening ← Opening.read? reading.glossary rules scope sources
  let (element, findings) := opening.finish tag
  let reading := opening.attributes.foldl identify (reading.withFindings findings)
  if reading.openElements.isEmpty && reading.root.isSome then none else reading.enter? element

/-- Puts the text of a name together by itself. No namespace reaches into it. -/
def readText? (follow? : Reading → List Token → Option Reading) (reading : Reading)
    (name replacement : Text) : Option Reading := do
  let shell : OpenElement :=
    { tag := [], name := [], attributes := [], scope := Scope.outermost }
  let inside ← follow? (← reading.enter? shell) (← tokens? replacement)
  if inside.openElements.head?.any fun innermost => innermost.tag.isEmpty then
    return { inside with
      openElements := reading.openElements
      spent := reading.spent
      seenNames := name :: inside.seenNames }
  else none

/-- Refers to text that is declared under a name. -/
def refer? (follow? : Reading → List Token → Option Reading) (reading : Reading) (name : Text) :
    Option Reading :=
  match reading.glossary.definitions.lookup name with
  | none => do
      let findings ← reading.glossary.missing?
      (reading.withFindings findings).add? .aside
  | some .foreign => none
  | some .elsewhere => reading.add? .aside
  | some (.text replacement) => do
      let reading ← reading.pay? reading.costs [name]
      if reading.seenNames.contains name then reading.add? .aside
      else
        let reading ← reading.readText? follow? name replacement
        reading.add? .aside

/-- Takes in one token. -/
def step? (follow? : Reading → List Token → Option Reading) (reading : Reading)
    (token : Token) : Option Reading :=
  match token with
  | .start tag sources closed => do
      let reading ← reading.start? tag sources
      if closed then reading.leave? else return reading
  | .stop tag =>
      if reading.openElements.head?.any fun innermost => innermost.tag = tag then reading.leave?
      else none
  | .data content =>
      if reading.openElements.isEmpty then
        if content.all CodePoint.isMarkupBlank then some reading else none
      else reading.add? (.text content)
  | .protectedData content => reading.add? (.text content)
  | .reference name => reading.refer? follow? name
  | .comment => some reading
  | .instruction target =>
      let reading := reading.withFindings (instructionFindings target)
      if reading.openElements.isEmpty then some reading else reading.add? .aside
  | .doctype declarations elsewhere => reading.takeType? declarations elsewhere

/-- Takes in tokens, with references among them up to a depth. -/
def follow? : Nat → Reading → List Token → Option Reading
  | 0, _, _ => none
  | depth + 1, reading, tokens => tokens.foldlM (step? (follow? depth)) reading

/-- The document, once everything is closed, if no error has the last word. -/
def finish? (reading : Reading) : Option Node :=
  if reading.openElements.isEmpty && !reading.findings.endsInError then reading.root else none

end Reading

end Tailoring.Markup
