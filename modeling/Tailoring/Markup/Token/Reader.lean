import Tailoring.Markup.Declaration.Reader
import Tailoring.Markup.Token

/-!
# Reading tokens

The reader of each kind of token, and the reader that cuts a whole text into
tokens.
-/

set_option autoImplicit false

namespace Tailoring.Markup

/-- A reference after its ampersand. -/
def readReference? (t : Text) : Option (Token × Text) := do
  let (body, rest) ← Text.cutAt? ';' t
  match ← referent? body with
  | .numbered c => return (.protectedData [c], rest)
  | .character _ c => return (.protectedData [c], rest)
  | .declared name => return (.reference name, rest)

/-- A name, an equals sign and a quoted value, the value as it stands. -/
def readAttribute? (t : Text) : Option ((Text × Text) × Text) := do
  let (name, rest) ← readName? t
  let rest ← Text.after? "=" (skipBlanks rest)
  let (value, rest) ← readQuoted? (skipBlanks rest)
  return ((name, value), rest)

/-- An attribute after a blank. -/
def readNextAttribute? (t : Text) : Option ((Text × Text) × Text) := do
  readAttribute? (← skipSomeBlanks? t)

/-- The tag of an element after its angle bracket. -/
def readStart? (t : Text) : Option (Token × Text) := do
  let (tag, rest) ← readName? t
  let (sources, rest) := readMany readNextAttribute? rest
  let attributes ← sources.mapM fun (name, source) => do
    let parts ← attributeParts? source
    return (name, parts)
  match Text.after? "/>" (skipBlanks rest), Text.after? ">" (skipBlanks rest) with
  | some rest, _ => return (.start tag attributes true, rest)
  | none, some rest => return (.start tag attributes false, rest)
  | none, none => none

/-- The tag at the end of an element after its bracket and slash. -/
def readStop? (t : Text) : Option (Token × Text) := do
  let (tag, rest) ← readName? t
  let rest ← Text.after? ">" (skipBlanks rest)
  return (.stop tag, rest)

/-- What follows the name of a document type: where its declarations are kept, and
declarations. -/
def readAfterName? (t : Text) : Option (Token × Text) := do
  let (location, rest) ←
    match skipSomeBlanks? t with
    | some rest => readLocation? rest
    | none => some (none, t)
  let rest := skipBlanks rest
  match readDeclarations? rest with
  | some (declarations, rest) => return (.doctype declarations location.isSome, skipBlanks rest)
  | none => return (.doctype [] location.isSome, rest)

/-- The document type after its opening. -/
def readDoctype? (t : Text) : Option (Token × Text) := do
  let (_, rest) ← readName? (← skipSomeBlanks? t)
  let (token, rest) ← readAfterName? rest
  let rest ← Text.after? ">" rest
  return (token, rest)

/-- A marked section after its opening. -/
def readSection? (t : Text) : Option (Token × Text) := do
  let (content, rest) ← Text.cutAtText? "]]>" t
  return (.protectedData content, rest)

/-- Characters up to the next tag or reference. The end of a marked section has
no place among them. -/
def readData? (t : Text) : Option (Token × Text) :=
  let isData (c : CodePoint) : Bool := c != '<' && c != '&'
  let content := t.takeWhile isData
  if content = [] ∨ (Text.firstIndexOf? "]]>" content).isSome then none
  else some (.data content, t.dropWhile isData)

/-- The openings of tokens with the readers of what follows them, longer ones
before those they start with. -/
def tokenReaders : List (Text × (Text → Option (Token × Text))) :=
  [("&", readReference?), ("</", readStop?),
    ("<?", fun t => (readInstruction? t).map fun (target, rest) => (.instruction target, rest)),
    ("<!--", fun t => (readComment? t).map fun rest => (.comment, rest)),
    ("<![CDATA[", readSection?), ("<!DOCTYPE", readDoctype?), ("<", readStart?)]

/-- The first token of a text. -/
def readToken? (t : Text) : Option (Token × Text) :=
  let opened := tokenReaders.findSome? fun (opening, read?) =>
    (Text.after? opening t).map read?
  opened.getD (readData? t)

/-- The tokens that make up a text. -/
def tokens? (t : Text) : Option (List Token) :=
  match readMany readToken? t with
  | (tokens, []) => some tokens
  | (_, _ :: _) => none

end Tailoring.Markup
