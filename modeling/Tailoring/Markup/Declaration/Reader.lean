import Tailoring.Markup.Declaration

/-!
# Reading declarations

The readers of declarations, and of comments and instructions, which stand among
declarations as well as in the rest of a document.
-/

set_option autoImplicit false

namespace Tailoring.Markup

/-- A comment after its opening. Two hyphens can only close it. -/
def readComment? (t : Text) : Option Text := do
  let (_, rest) ← Text.cutAtText? "--" t
  Text.after? ">" rest

/-- The target of an instruction after its opening. The name of the declaration
that starts a document is not for instructions. -/
def readInstruction? (t : Text) : Option (Text × Text) := do
  let (target, rest) ← readName? t
  if target.map CodePoint.toSmall = "xml" then none
  else
    match Text.after? "?>" rest with
    | some rest => return (target, rest)
    | none =>
        let rest ← skipSomeBlanks? rest
        let (_, rest) ← Text.cutAtText? "?>" rest
        return (target, rest)

/-- A public identifier between quotes. -/
def readPublicId? (t : Text) : Option Text := do
  let (id, rest) ← readQuoted? t
  if id.all CodePoint.isPublicId then return rest else none

/-- Where something is kept, if that is said. -/
def readLocation? (t : Text) : Option (Option Text × Text) :=
  match Text.after? "SYSTEM" t, Text.after? "PUBLIC" t with
  | some rest, _ => do
      let (location, rest) ← readQuoted? (← skipSomeBlanks? rest)
      return (some location, rest)
  | none, some rest => do
      let rest ← readPublicId? (← skipSomeBlanks? rest)
      let (location, rest) ← readQuoted? (← skipSomeBlanks? rest)
      return (some location, rest)
  | none, none => some (none, t)

/-- What is declared under a name: text between quotes, or where to find it. Only
what the document refers to can be foreign. -/
def readDefinition? (isGeneral : Bool) (t : Text) : Option (Definition × Text) :=
  match readQuoted? t with
  | some (source, rest) => (declaredText? source).map fun replacement => (.text replacement, rest)
  | none => do
      let (location, rest) ← readLocation? t
      if (← location).contains '#' then none
      else
        match (skipSomeBlanks? rest).bind (Text.after? "NDATA") with
        | some format =>
            if isGeneral then
              let (_, rest) ← readName? (← skipSomeBlanks? format)
              return (.foreign, rest)
            else none
        | none => return (.elsewhere, rest)

/-- The declaration of a name, after its keyword. -/
def readNameDeclaration? (t : Text) : Option (Declaration × Text) := do
  let rest ← skipSomeBlanks? t
  match Text.after? "%" rest with
  | none =>
      let (name, rest) ← readName? rest
      let (definition, rest) ← readDefinition? true (← skipSomeBlanks? rest)
      return (.general name definition, rest)
  | some rest =>
      let (name, rest) ← readName? (← skipSomeBlanks? rest)
      let (definition, rest) ← readDefinition? false (← skipSomeBlanks? rest)
      return (.parameter name definition, rest)

/-- Words in brackets with bars between them. -/
def skipAlternatives? (isWord : Text → Bool) (t : Text) : Option Text := do
  let (body, rest) ← Text.cutAt? ')' (← Text.after? "(" t)
  if (Text.splitOn '|' body).all fun word => isWord (trimBlanks word) then return rest else none

/-- The keywords for kinds of attributes, longer ones before those they start
with. -/
def attributeKinds : List (Text × AttributeKind) :=
  [("CDATA", .free), ("IDREFS", .words), ("IDREF", .words), ("ID", .identifier),
    ("ENTITY", .words), ("ENTITIES", .words), ("NMTOKENS", .words), ("NMTOKEN", .words)]

/-- The kind of an attribute: a keyword, or the words that its value may be. -/
def readAttributeKind? (t : Text) : Option (AttributeKind × Text) :=
  let byKeyword := attributeKinds.findSome? fun (keyword, kind) =>
    (Text.after? keyword t).map fun rest => (kind, rest)
  match byKeyword, Text.after? "NOTATION" t with
  | some found, _ => some found
  | none, some rest => do
      let rest ← skipAlternatives? isWholeName (← skipSomeBlanks? rest)
      return (.words, rest)
  | none, none => do
      let isWord (word : Text) : Bool := !word.isEmpty && word.all CodePoint.isName
      let rest ← skipAlternatives? isWord t
      return (.words, rest)

/-- The value of elements that are given none. -/
def readPreset? (t : Text) : Option (Option (List ValuePart) × Text) :=
  match Text.after? "#REQUIRED" t, Text.after? "#IMPLIED" t with
  | some rest, _ => some (none, rest)
  | none, some rest => some (none, rest)
  | none, none => do
      let start ←
        match Text.after? "#FIXED" t with
        | some rest => skipSomeBlanks? rest
        | none => some t
      let (source, rest) ← readQuoted? start
      let parts ← attributeParts? source
      return (some parts, rest)

/-- A declared attribute after a blank. -/
def readAttributeRule? (t : Text) : Option (AttributeRule × Text) := do
  let (name, rest) ← readName? (← skipSomeBlanks? t)
  let (kind, rest) ← readAttributeKind? (← skipSomeBlanks? rest)
  let (preset, rest) ← readPreset? (← skipSomeBlanks? rest)
  return ({ name, kind, preset }, rest)

/-- The declaration of attributes, after its keyword. -/
def readAttributeDeclaration? (t : Text) : Option (Declaration × Text) := do
  let (element, rest) ← readName? (← skipSomeBlanks? t)
  let (rules, rest) := readMany readAttributeRule? rest
  return (.attributes element rules, rest)

/-- Characters and elements mixed, after the opening bracket. Unless there are
characters only, they may come in any number. -/
def skipMixed? (t : Text) : Option Text := do
  let (body, rest) ← Text.cutAt? ')' (← Text.after? "#PCDATA" (skipBlanks t))
  match Text.splitOn '|' body with
  | [] => none
  | first :: names =>
      if trimBlanks first = [] ∧ names.all fun name => isWholeName (trimBlanks name) then
        match Text.after? "*" rest with
        | some rest => return rest
        | none => if names = [] then return rest else none
      else none

/-- A sign in a pattern of elements. -/
inductive PatternSign where
  | opening
  | closing
  | separator (c : CodePoint)
  | element

/-- Drops the mark for how often something comes. -/
def skipFrequency (t : Text) : Text :=
  match t with
  | [] => []
  | c :: rest => if (Text.ofString "?*+").contains c then rest else t

/-- The first sign of a pattern. -/
def readPatternSign? (t : Text) : Option (PatternSign × Text) :=
  match skipBlanks t with
  | [] => none
  | c :: rest =>
      if c = ('(' : CodePoint) then some (.opening, rest)
      else if c = (')' : CodePoint) then some (.closing, skipFrequency rest)
      else if c = (',' : CodePoint) ∨ c = ('|' : CodePoint) then some (.separator c, rest)
      else (readName? (c :: rest)).map fun (_, rest) => (.element, skipFrequency rest)

/-- The signs make up the rest of a pattern, given the separators of the groups
that are open, innermost first, and whether an element or a group has to follow.
A group has separators of one kind only. -/
def isPattern : List (Option CodePoint) → Bool → List PatternSign → Bool
  | groups, true, .opening :: rest => isPattern (none :: groups) true rest
  | groups, true, .element :: rest => isPattern groups false rest
  | none :: groups, false, .separator c :: rest => isPattern (some c :: groups) true rest
  | some d :: groups, false, .separator c :: rest =>
      decide (c = d) && isPattern (some d :: groups) true rest
  | _ :: groups, false, .closing :: rest => isPattern groups false rest
  | [], false, [] => true
  | _, _, _ => false

/-- A pattern of elements after the opening bracket. -/
def skipPattern? (t : Text) : Option Text :=
  let (signs, rest) := readMany readPatternSign? t
  if isPattern [none] true signs then some rest else none

/-- What an element may contain. -/
def skipContent? (t : Text) : Option Text :=
  match Text.after? "EMPTY" t, Text.after? "ANY" t with
  | some rest, _ => some rest
  | none, some rest => some rest
  | none, none => do
      let rest ← Text.after? "(" t
      match skipMixed? rest with
      | some rest => return rest
      | none => skipPattern? rest

/-- The declaration of what an element contains, after its keyword. -/
def readContentDeclaration? (t : Text) : Option (Declaration × Text) := do
  let (_, rest) ← readName? (← skipSomeBlanks? t)
  let rest ← skipContent? (← skipSomeBlanks? rest)
  return (.content, rest)

/-- The declaration of a format, after its keyword. It has a public identifier or
says where it is kept. -/
def readFormatDeclaration? (t : Text) : Option (Declaration × Text) := do
  let (name, rest) ← readName? (← skipSomeBlanks? t)
  let rest ← skipSomeBlanks? rest
  match readLocation? rest with
  | some (some _, rest) => return (.format name, rest)
  | _ =>
      let rest ← readPublicId? (← skipSomeBlanks? (← Text.after? "PUBLIC" rest))
      return (.format name, rest)

/-- The keywords of declarations with the readers of what follows them. -/
def declarationReaders : List (Text × (Text → Option (Declaration × Text))) :=
  [("<!ENTITY", readNameDeclaration?), ("<!ATTLIST", readAttributeDeclaration?),
    ("<!ELEMENT", readContentDeclaration?), ("<!NOTATION", readFormatDeclaration?)]

/-- A declaration after blanks. -/
def readDeclared? (t : Text) : Option (Declaration × Text) :=
  let start := skipBlanks t
  match Text.after? "<!--" start, Text.after? "<?" start, Text.after? "%" start with
  | some rest, _, _ => (readComment? rest).map fun rest => (.comment, rest)
  | none, some rest, _ =>
      (readInstruction? rest).map fun (target, rest) => (.instruction target, rest)
  | none, none, some rest => do
      let (name, rest) ← readName? rest
      let rest ← Text.after? ";" rest
      return (.reference name, rest)
  | none, none, none => do
      let (declaration, rest) ← declarationReaders.findSome? fun (keyword, read?) =>
        (Text.after? keyword start).bind read?
      let rest ← Text.after? ">" (skipBlanks rest)
      return (declaration, rest)

/-- The declarations that make up a text. -/
def declarations? (t : Text) : Option (List Declaration) :=
  let (declarations, rest) := readMany readDeclared? t
  if skipBlanks rest = [] then some declarations else none

/-- Declarations between square brackets. -/
def readDeclarations? (t : Text) : Option (List Declaration × Text) := do
  let (declarations, rest) := readMany readDeclared? (← Text.after? "[" t)
  let rest ← Text.after? "]" (skipBlanks rest)
  return (declarations, rest)

end Tailoring.Markup
