import Tailoring.CommandLine.Arguments
import Tailoring.CommandLine.Disk
import Tailoring.CommandLine.OutputName
import Tailoring.Format
import Tailoring.Ldml.Source

/-!
# Runs

What one call of the program does, as a function of the disk that it finds and of
the way in which documents are parsed: the files that it writes, what it prints,
and how it ends. Everything that can be wrong with what is asked for is found out
before the first file is written, and no file that is there is written again.
-/

set_option autoImplicit false

namespace Tailoring.CommandLine

/-- Why there can be no reporting. -/
inductive LevelFault where
  /-- The level has the name of the form of lines. -/
  | form
  /-- The level has the name of the table of styles. -/
  | styles
  deriving DecidableEq

namespace LevelFault

/-- The wording of a fault. -/
def message : LevelFault → Text
  | form => "Unknown level: '%(levelname)s:%(name)s:%(message)s'"
  | styles =>
      "Level not an integer or a valid string: " ++
        "\x7b'%': (<class 'logging.PercentStyle'>, '%(levelname)s:%(name)s:%(message)s'), " ++
        "'\x7b': (<class 'logging.StrFormatStyle'>, " ++
        "'\x7blevelname\x7d:\x7bname\x7d:\x7bmessage\x7d'), " ++
        "'$': (<class 'logging.StringTemplateStyle'>, " ++
        "'$\x7blevelname\x7d:$\x7bname\x7d:$\x7bmessage\x7d')\x7d"

/-- The fault in a level of reporting. Two names in capitals mean something that is
no level; a name that means nothing stands for the usual level. -/
def ofLevel? (logLevel : Text) : Option LevelFault :=
  if logLevel = "BASIC_FORMAT" then some form
  else if logLevel = "_STYLES" then some styles
  else none

end LevelFault

/-- What a run is not prepared for. It breaks off there. -/
inductive Breakdown where
  | level (fault : LevelFault)
  /-- The path leads nowhere. -/
  | astray (path : Path) (reason : Astray)
  /-- The document has a name that cannot be read. -/
  | unreadableName
  deriving DecidableEq

/-- The wording of a breakdown. -/
def Breakdown.message : Breakdown → Text
  | level fault => fault.message
  | astray path .circle => "Symlink loop from " ++ Text.quoted path.render
  | astray path .missing => "No such file or directory: " ++ Text.quoted path.render
  | astray _ .nullCharacter => "embedded null byte"
  | unreadableName => "list index out of range"

/-- Why a conversion stops. -/
inductive Stop where
  | fileMissing (path : Path)
  | directoryMissing (path : Path)
  | noFormats
  | unknownFormat (key : Text)
  | unknownNewline (style : Text)
  /-- The document with this name is not well formed. -/
  | malformed (name : Text)
  /-- The collation in the document with this name is missing or faulty. -/
  | invalid (name : Text) (fault : Fault)
  | broken (breakdown : Breakdown)
  deriving DecidableEq

namespace Stop

/-- The wording of a stop. -/
def message : Stop → Text
  | fileMissing path => "File not found: " ++ path.render
  | directoryMissing path => "Output directory does not exist: " ++ path.render
  | noFormats => "No output formats given."
  | unknownFormat key =>
      "Unknown format '" ++ key ++ "'. Available formats: " ++
        Text.join ", " (Format.all.map Format.key)
  | unknownNewline style => "Unknown newline style '" ++ style ++ "'. Valid styles: crlf, lf"
  | malformed name => "Malformed XML in " ++ name
  | invalid name fault => "Invalid collation in " ++ name ++ ": " ++ fault.message
  | broken breakdown => breakdown.message

/-- The breakdown behind a stop, if it is not one of those that a run expects. -/
def breakdown? : Stop → Option Breakdown
  | broken breakdown => some breakdown
  | _ => none

/-- The last line of a run that stops. -/
def report : Stop → Text
  | broken breakdown => breakdown.message ++ "\n"
  | stop => "Error: " ++ stop.message ++ "\n"

end Stop

/-- Something said while running. -/
inductive Message where
  /-- How far the run has come. -/
  | status (line : Text)
  /-- A note for who asks for it. -/
  | note (remark : Note)
  deriving DecidableEq

/-- The line of a message; notes are shown on demand only. -/
def Message.render (showNotes : Bool) : Message → Text
  | status line => line ++ "\n"
  | note remark =>
      if showNotes then "DEBUG " ++ remark.source ++ ": " ++ remark.message ++ "\n" else []

/-- The formats asked for: keys with commas between them, blanks around and empty
keys not counted. -/
def parseFormats (keys : Text) : Except Stop (List Format) :=
  let given := ((Text.splitOn ',' keys).map Text.trim).filter (· ≠ [])
  if given = [] then .error .noFormats
  else given.mapM fun key =>
    match Format.ofKey? key with
    | some format => .ok format
    | none => .error (.unknownFormat key)

/-- The line break asked for. -/
def resolveNewline (style : Text) : Except Stop Text :=
  match newlineOf? style with
  | some newline => .ok newline
  | none => .error (.unknownNewline style)

namespace Arguments

/-- The path that is written so, or where a run breaks off. -/
def resolve (disk : Disk) (directory : Path) (written : Text) : Except Stop Path :=
  match disk.resolve directory written with
  | .ok path => .ok path
  | .error reason => .error (.broken (.astray (Path.resolve directory written) reason))

/-- The document that is asked about. -/
def input (disk : Disk) (directory : Path) (arguments : Arguments) : Except Stop Path :=
  resolve disk directory arguments.inputFile

/-- Where products are saved: in the directory that is asked for, or beside the
document. -/
def outputDirectory (disk : Disk) (directory : Path) (arguments : Arguments) :
    Except Stop Path :=
  match arguments.outputDir with
  | none => (arguments.input disk directory).map Path.parent
  | some [] => (arguments.input disk directory).map Path.parent
  | some written => resolve disk directory written

end Arguments

/-- A conversion that can begin. -/
structure Job where
  /-- The path of the document. -/
  input : Path
  /-- The bytes of the document. -/
  source : Bytes
  /-- Where products are saved. -/
  outputDirectory : Path
  /-- The type of collation. -/
  collationType : Text
  /-- The formats, in the order asked for. -/
  formats : List Format
  /-- The line break. -/
  newline : Text

namespace Job

/-- Checks what is asked for against the disk. -/
def prepare (disk : Disk) (directory : Path) (arguments : Arguments) : Except Stop Job := do
  let input ← arguments.input disk directory
  match disk.read? input with
  | none => throw (.fileMissing input)
  | some source =>
      let outputDirectory ← arguments.outputDirectory disk directory
      if !arguments.toStdout && !disk.isDirectory outputDirectory then
        throw (.directoryMissing outputDirectory)
      let formats ← parseFormats arguments.formats
      let newline ← resolveNewline arguments.newline
      return {
        input := input
        source := source
        outputDirectory := outputDirectory
        collationType := arguments.collationType
        formats := formats
        newline := newline }

/-- The collation of the document. -/
def collation (parse : Markup.Parser) (job : Job) : Except Stop Collation :=
  match Ldml.load parse job.collationType job.input.render job.source with
  | .ok collation => .ok collation
  | .error (.fault fault) => .error (.invalid job.input.name fault)
  | .error .malformed => .error (.malformed job.input.name)
  | .error .unreadableName => .error (.broken .unreadableName)

/-- The products of a collation in one format. -/
def format (job : Job) (collation : Collation) (format : Format) : Except Stop (List Product) :=
  match format.products job.newline collation with
  | .ok products => .ok products
  | .error fault => .error (.invalid job.input.name fault)

/-- The products in all formats. -/
def products (parse : Markup.Parser) (job : Job) : Except Stop (List Product) := do
  let collation ← job.collation parse
  let products ← job.formats.mapM (job.format collation)
  return products.flatten

/-- What is said while making the products in the given formats. -/
def formatMessages (job : Job) (collation : Collation) : List Format → List Message
  | [] => []
  | format :: rest =>
      .status ("  Running " ++ format.name ++ " formatter...") ::
        (format.notes job.newline collation).map .note ++
        match job.format collation format with
        | .error _ => []
        | .ok [] =>
            .status ("  " ++ format.name ++ ": not representable, skipped") ::
              job.formatMessages collation rest
        | .ok _ => job.formatMessages collation rest

/-- What is said while making all products. -/
def messages (parse : Markup.Parser) (job : Job) : List Message :=
  .status ("Reading <collation type=\"" ++ job.collationType ++ "\"> from " ++ job.input.name ++
      "...") ::
    (Ldml.loadNotes parse job.collationType job.input.render job.source).map .note ++
    match job.collation parse with
    | .error _ => []
    | .ok collation => job.formatMessages collation job.formats

/-- The name for the file of a product: one under which nothing is found. -/
def fileName (directory : Path) (stem : Text) (disk : Disk) (product : Product) : Text :=
  OutputName.choose (disk.names directory) stem product.suffix

/-- The new file for a product, if its name leads to a place and its content can be
written in UTF-8. -/
def newFile? (directory : Path) (stem : Text) (disk : Disk) (product : Product) :
    Option NewFile :=
  let name := fileName directory stem disk product
  match disk.find (directory ++ [name]), Text.utf8? product.content with
  | .ok place, some content => some { name, place, content }
  | _, _ => none

/-- The new files for products, each with a name that is free when its turn comes,
up to one that cannot be written; and the path of that one. -/
def save (directory : Path) (stem : Text) (disk : Disk) :
    List Product → List NewFile × Option Path
  | [] => ([], none)
  | product :: rest =>
      match newFile? directory stem disk product with
      | none => ([], some (directory ++ [fileName directory stem disk product]))
      | some file =>
          let (files, failure) :=
            save directory stem (disk.write file.place file.content) rest
          (file :: files, failure)

/-- What is said of files that have been saved. -/
def savedMessages (files : List NewFile) : List Message :=
  files.map fun file => .status ("  Saved: " ++ file.name)

/-- What is said when a file cannot be written. -/
def unwrittenMessage (path : Path) : Message :=
  .status ("Cannot write: " ++ Text.quoted path.render)

/-- What is said when all files have been saved. -/
def doneMessage (directory : Path) (files : List NewFile) : Message :=
  .status ("Done! Saved " ++ Text.ofNat files.length ++ " file(s) to " ++ directory.render)

end Job

/-- What a run has done. -/
structure Outcome where
  /-- Zero if all went well. -/
  exitCode : Nat
  /-- What was printed as the result. -/
  output : Text := []
  /-- What was printed beside it. -/
  messages : Text := []
  /-- The new files, in the order of writing. -/
  written : List NewFile := []
  /-- What the run was not prepared for, if it has broken off. -/
  breakdown : Option Breakdown := none
  /-- The path under which no file could be written, if there was one. -/
  unwritten : Option Path := none

namespace Outcome

/-- A run that has stopped. -/
def stopped (showNotes : Bool) (messages : List Message) (stop : Stop) : Outcome where
  exitCode := 1
  messages := messages.flatMap (Message.render showNotes) ++ stop.report
  breakdown := stop.breakdown?

/-- A run whose words cannot be followed. -/
def refused (refusal : Refusal) : Outcome where
  exitCode := 2
  messages := "ldml_collation: error: " ++ refusal.message ++ "\n"

end Outcome

/-- How the program is used. -/
def usage : Text :=
  "usage: ldml_collation [-h] [--collation-type TYPE] [--formats KEYS] [--newline STYLE] " ++
    "[--output-dir DIRECTORY] [--stdout] [--log-level LEVEL] input_file\n"

/-- Notes are shown at this level of reporting. -/
def showsNotes (logLevel : Text) : Bool :=
  logLevel == Text.ofString "DEBUG" || logLevel == Text.ofString "NOTSET"

/-- Converts what the arguments ask for. -/
def convert (parse : Markup.Parser) (disk : Disk) (directory : Path) (arguments : Arguments) :
    Outcome :=
  let showNotes := showsNotes arguments.logLevel
  match Job.prepare disk directory arguments with
  | .error stop => .stopped showNotes [] stop
  | .ok job =>
      match job.products parse with
      | .error stop => .stopped showNotes (job.messages parse) stop
      | .ok products =>
          if arguments.toStdout then
            { exitCode := 0
              output := products.flatMap fun product => product.content ++ "\n"
              messages := (job.messages parse).flatMap (Message.render showNotes) }
          else
            let (files, failure) :=
              Job.save job.outputDirectory (Path.stemOf job.input.name) disk products
            let messages := job.messages parse ++ Job.savedMessages files
            match failure with
            | some path =>
                { exitCode := 1
                  messages :=
                    (messages ++ [Job.unwrittenMessage path]).flatMap (Message.render showNotes)
                  written := files
                  unwritten := some path }
            | none =>
                { exitCode := 0
                  messages :=
                    (messages ++ [Job.doneMessage job.outputDirectory files]).flatMap
                      (Message.render showNotes)
                  written := files }

/-- One call of the program with these words in a working directory. Only a
conversion needs a level of reporting. -/
def run (parse : Markup.Parser) (defaults : Defaults) (disk : Disk) (directory : Path)
    (words : List Text) : Outcome :=
  match Arguments.parse defaults words with
  | .error refusal => .refused refusal
  | .ok .help => { exitCode := 0, output := usage }
  | .ok (.convert arguments) =>
      match LevelFault.ofLevel? arguments.logLevel with
      | some fault => .stopped false [] (.broken (.level fault))
      | none => convert parse disk directory arguments

end Tailoring.CommandLine
