import Tailoring.Markup.Encoding
import Tailoring.Markup.Reading

/-!
# Reading documents

A document may start with a mark of its encoding and a declaration of its version,
its encoding and whether it declares all its names itself. After them come its
tokens. A document that is not well formed has no reading, and neither has one
whose encoding is not known. Names can have any length. The program reads documents
in this way; what it does with their elements does not depend on it.
-/

set_option autoImplicit false

namespace Tailoring.Markup

/-- Line breaks of every style as line feeds. -/
def unifyLineBreaks : Text → Text
  | [] => []
  | [c] => [if c = 0x0D then lineFeed else c]
  | c :: d :: rest =>
      if c = 0x0D then
        if d = lineFeed then lineFeed :: unifyLineBreaks rest
        else lineFeed :: unifyLineBreaks (d :: rest)
      else c :: unifyLineBreaks (d :: rest)

/-- What a document says of itself at its start. -/
structure Prologue where
  /-- The version of the markup language. -/
  version : Text := "1.0"
  /-- The encoding. -/
  encoding : Option Text := none
  /-- It declares all its names itself. -/
  standalone : Bool := false

namespace Prologue

/-- The version is one of the first generation. -/
def isKnownVersion (version : Text) : Bool :=
  (Text.after? "1." version).any fun minor => minor.all CodePoint.isDigit

/-- The text is fit for the name of an encoding. -/
def isEncodingName (t : Text) : Bool :=
  t.head?.any CodePoint.isLetter &&
    t.all fun c => c.isAlphanumeric || (Text.ofString "._-").contains c

/-- What is declared, if it comes in order: the version, then the encoding, then
whether names are declared elsewhere. -/
def ofDeclared? (declared : List (Text × Text)) : Option Prologue :=
  match declared with
  | [] => none
  | (name, version) :: rest =>
      if name = "version" ∧ isKnownVersion version then do
        let (encoding, rest) ←
          match rest with
          | (name, value) :: rest' =>
              if name = "encoding" then
                if isEncodingName value then some (some value, rest') else none
              else some (none, rest)
          | [] => some (none, [])
        match rest with
        | [] => return { version, encoding }
        | [(name, value)] =>
            if name = "standalone" ∧ value = "yes" then
              return { version, encoding, standalone := true }
            else if name = "standalone" ∧ value = "no" then return { version, encoding }
            else none
        | _ => none
      else none

/-- The declaration at the start of a document, if there is one, and the rest. -/
def read? (t : Text) : Option (Prologue × Text) :=
  match Text.after? "<?xml" t with
  | some rest =>
      if rest.head?.any CodePoint.isMarkupBlank then do
        let (declared, rest) := readMany readNextAttribute? rest
        let prologue ← ofDeclared? declared
        let rest ← Text.after? "?>" (skipBlanks rest)
        return (prologue, rest)
      else some ({}, t)
  | none => some ({}, t)

/-- What is found in a declaration: a version that is not the first one, or an
encoding that is not the one that a mark has given. -/
def findings (prologue : Prologue) (marked : Bool) : List Finding :=
  let encoding := prologue.encoding.bind Encoding.ofName?
  (if prologue.version = "1.0" then [] else [.warning]) ++
    if marked && prologue.encoding.isSome && encoding != some .utf8 then [.warning] else []

/-- The encoding of a document. A mark at its start has more weight than what it
says. -/
def encoding? (prologue : Prologue) (marked : Bool) : Option Encoding :=
  match prologue.encoding, marked with
  | some name, false => Encoding.ofName? name
  | some _, true => some .utf8
  | none, _ => some .utf8

end Prologue

/-- The bytes of the mark of UTF-8, as code points. -/
def encodingMark : Text := [0xEF, 0xBB, 0xBF]

/-- The outermost element of a document, if the document is well formed. What it
says of itself has ASCII characters only and is read before its encoding is
known. -/
def parse? (source : Bytes) : Option Node := do
  let numbered := Encoding.numbered source
  let unmarked := Text.after? encodingMark numbered
  let (prologue, _) ← Prologue.read? (unmarked.getD numbered)
  let encoding ← prologue.encoding? unmarked.isSome
  let decoded ← encoding.decode? source
  let decoded := if unmarked.isSome then decoded.tail else decoded
  if decoded.all CodePoint.isMarkup then
    let (_, body) ← Prologue.read? (unifyLineBreaks decoded)
    let tokens ← tokens? body
    let start : Reading := { length := decoded.length, standalone := prologue.standalone }
    let reading ← Reading.follow? (Glossary.maximalDepth + 1)
      (start.withFindings (prologue.findings unmarked.isSome)) tokens
    reading.finish?
  else none

end Tailoring.Markup
