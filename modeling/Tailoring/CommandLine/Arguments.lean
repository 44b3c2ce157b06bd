import Tailoring.CommandLine.Defaults
import Tailoring.Text.Decimal
import Tailoring.Text.Printable

/-!
# Arguments

The words after the name of the program. One of them is the input file; flags
may stand before and after it, shortened as long as no other flag starts the
same way, with their value in the same word after an equals sign or in the next.
After two hyphens alone no word is a flag.
-/

set_option autoImplicit false

namespace Tailoring.CommandLine

/-- What the words ask for. -/
structure Arguments where
  inputFile : Text
  collationType : Text
  formats : Text
  newline : Text
  outputDir : Option Text
  toStdout : Bool
  logLevel : Text
  deriving DecidableEq

/-- What the program is to do. -/
inductive Request where
  /-- Show how it is used. -/
  | help
  /-- Convert a collation. -/
  | convert (arguments : Arguments)
  deriving DecidableEq

/-- The flags. -/
inductive Flag where
  | help
  | collationType
  | formats
  | newline
  | outputDir
  | stdout
  | logLevel
  deriving DecidableEq, Repr

namespace Flag

/-- All flags. -/
def all : List Flag :=
  [help, collationType, formats, newline, outputDir, stdout, logLevel]

/-- A flag in full. -/
def label : Flag → Text
  | help => "--help"
  | collationType => "--collation-type"
  | formats => "--formats"
  | newline => "--newline"
  | outputDir => "--output-dir"
  | stdout => "--stdout"
  | logLevel => "--log-level"

/-- A flag in messages, with all its spellings. -/
def shown : Flag → Text
  | help => "-h/--help"
  | flag => flag.label

/-- The flag that is spelled out. -/
def ofLabel? (word : Text) : Option Flag :=
  if word = "-h" then some help else all.find? fun flag => flag.label = word

end Flag

/-- The levels of reporting that can be asked for. -/
def logLevels : List Text :=
  ["DEBUG", "INFO", "WARNING", "ERROR"]

/-- Why words cannot be followed. -/
inductive Refusal where
  /-- A flag is shortened too much. -/
  | ambiguous (word : Text) (flags : List Flag)
  /-- A flag needs a value. -/
  | valueMissing (flag : Flag)
  /-- A flag takes no value. -/
  | valueIgnored (flag : Flag) (value : Text)
  /-- There is no such level of reporting. -/
  | unknownLevel (value : Text)
  /-- There is no input file. -/
  | inputMissing
  /-- Some words mean nothing. -/
  | unrecognized (words : List Text)
  deriving DecidableEq

/-- The wording of a refusal. -/
def Refusal.message : Refusal → Text
  | ambiguous word flags =>
      "ambiguous option: " ++ word ++ " could match " ++ Text.join ", " (flags.map Flag.label)
  | valueMissing flag => "argument " ++ flag.shown ++ ": expected one argument"
  | valueIgnored flag value =>
      "argument " ++ flag.shown ++ ": ignored explicit argument " ++ Text.quoted value
  | unknownLevel value =>
      "argument --log-level: invalid choice: " ++ Text.quoted value ++ " (choose from " ++
        Text.join ", " (logLevels.map Text.quoted) ++ ")"
  | inputMissing => "the following arguments are required: input_file"
  | unrecognized words => "unrecognized arguments: " ++ Text.join " " words

/-- What a word is, taken by itself. -/
inductive Word where
  /-- The input file, or the value of the flag before. -/
  | plain (word : Text)
  /-- A flag, possibly with a value. -/
  | flag (flag : Flag) (value : Option Text)
  /-- Like a flag, but none. -/
  | unknown (word : Text)
  /-- The end of the flags. -/
  | terminator
  deriving DecidableEq

namespace Word

/-- Digits, or digits around a decimal point with some after it. -/
def isNumber (t : Text) : Bool :=
  match Text.cutAt? '.' t with
  | none => !t.isEmpty && t.all CodePoint.isDecimal
  | some (whole, decimals) =>
      whole.all CodePoint.isDecimal && !decimals.isEmpty && decimals.all CodePoint.isDecimal

/-- A hyphen and a number, after which one line feed may stand. -/
def isNegativeNumber (word : Text) : Bool :=
  (Text.after? "-" word).any fun number =>
    isNumber (if number.getLast? = some lineFeed then number.dropLast else number)

/-- The flag with one letter, given what follows it, possibly after an equals
sign. It may be repeated in the same word; anything else is a value. -/
def ofLetter (tail : Text) : Word :=
  let value := (Text.after? "=" tail).getD tail
  let rest := value.dropWhile (· == ('h' : CodePoint))
  .flag .help (if rest = [] ∧ value ≠ [] then none else some rest)

/-- A word that starts with two hyphens but spells out no flag. -/
def ofLabelled (word : Text) : Except Refusal Word :=
  let (label, value) :=
    match Text.cutAt? '=' word with
    | some (label, value) => (label, some value)
    | none => (word, none)
  match Flag.ofLabel? label, Flag.all.filter fun flag => label.isPrefixOf flag.label with
  | some known, _ => .ok (.flag known value)
  | none, [known] => .ok (.flag known value)
  | none, first :: others => .error (.ambiguous word (first :: others))
  | none, [] => .ok (if word.contains space then .plain word else .unknown word)

/-- A word that starts with a hyphen but spells out no flag. -/
def ofHyphenated (word : Text) : Except Refusal Word :=
  match Text.after? "-h" word with
  | some tail => .ok (ofLetter tail)
  | none =>
      if (Text.ofString "--").isPrefixOf word then ofLabelled word
      else if isNegativeNumber word || word.contains space then .ok (.plain word)
      else .ok (.unknown word)

/-- What a word is, if flags have not ended. -/
def read (word : Text) : Except Refusal Word :=
  match Flag.ofLabel? word with
  | some known => .ok (.flag known none)
  | none =>
      if word.head? = some ('-' : CodePoint) ∧ 2 ≤ word.length then ofHyphenated word
      else .ok (.plain word)

/-- What all words are. -/
def readAll : List Text → Except Refusal (List Word)
  | [] => .ok []
  | word :: rest =>
      if word = "--" then .ok (.terminator :: rest.map .plain)
      else do
        let first ← read word
        let others ← readAll rest
        return first :: others

end Word

/-- Words followed in part. -/
structure Progress where
  /-- The input file, once met. -/
  input : Option Text := none
  /-- The words that mean nothing. -/
  unrecognized : List Text := []
  /-- What the flags so far ask for. -/
  arguments : Arguments

namespace Progress

/-- The value of a flag that takes one. -/
def set (progress : Progress) (flag : Flag) (value : Text) : Except Refusal Progress :=
  let set (arguments : Arguments) : Except Refusal Progress := .ok { progress with arguments }
  match flag with
  | .collationType => set { progress.arguments with collationType := value }
  | .formats => set { progress.arguments with formats := value }
  | .newline => set { progress.arguments with newline := value }
  | .outputDir => set { progress.arguments with outputDir := some value }
  | .logLevel =>
      if logLevels.contains value then set { progress.arguments with logLevel := value }
      else .error (.unknownLevel value)
  | .help | .stdout => .error (.valueIgnored flag value)

/-- A word without a meaning. -/
def refuse (progress : Progress) (word : Text) : Progress :=
  { progress with unrecognized := progress.unrecognized ++ [word] }

/-- What is asked for when all words have been met. A missing input file is worse
than words without a meaning. -/
def finish (progress : Progress) : Except Refusal Request :=
  match progress.input, progress.unrecognized with
  | none, _ => .error .inputMissing
  | some _, word :: words => .error (.unrecognized (word :: words))
  | some input, [] => .ok (.convert { progress.arguments with inputFile := input })

/-- Follows words. The end of the flags next to the input file belongs to it;
elsewhere it means nothing. -/
def follow (progress : Progress) : List Word → Except Refusal Request
  | [] => progress.finish
  | .plain word :: rest =>
      match progress.input, rest with
      | none, .terminator :: rest' => follow { progress with input := some word } rest'
      | none, rest => follow { progress with input := some word } rest
      | some _, rest => follow (progress.refuse word) rest
  | .terminator :: rest =>
      match progress.input, rest with
      | none, .plain word :: rest' => follow { progress with input := some word } rest'
      | _, rest => follow (progress.refuse "--") rest
  | .unknown word :: rest => follow (progress.refuse word) rest
  | .flag .help none :: _ => .ok .help
  | .flag .stdout none :: rest =>
      follow { progress with arguments := { progress.arguments with toStdout := true } } rest
  | .flag flag (some value) :: rest =>
      match progress.set flag value with
      | .ok progress' => follow progress' rest
      | .error refusal => .error refusal
  | .flag flag none :: rest =>
      match rest with
      | .plain value :: rest' =>
          match progress.set flag value with
          | .ok progress' => follow progress' rest'
          | .error refusal => .error refusal
      | _ => .error (.valueMissing flag)

end Progress

/-- What the words ask for. -/
def Arguments.parse (defaults : Defaults) (words : List Text) : Except Refusal Request := do
  let words ← Word.readAll words
  let start : Arguments := {
    inputFile := []
    collationType := defaults.collationType
    formats := "preferred"
    newline := defaults.newlineStyle
    outputDir := none
    toStdout := false
    logLevel := defaults.logLevel }
  Progress.follow { arguments := start } words

end Tailoring.CommandLine
