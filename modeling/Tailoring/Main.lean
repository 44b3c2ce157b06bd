import Tailoring.CommandLine.Run
import Tailoring.Markup.Document

/-!
# The program

Shows a run the part of the file system that it asks about, gives it the parser,
and carries out what it decides.
-/

set_option autoImplicit false

namespace Tailoring.Main

open CommandLine

/-- A text as a string. Rules and messages hold no surrogates. -/
def display (t : Text) : String :=
  (Text.toString? t).getD ""

/-- A path as the system writes it. -/
def systemPath (path : Path) : String :=
  display path.render

/-- Adds the directories that a path lies in, and the path itself as a directory. -/
def withDirectories (disk : Disk) (path : Path) : Disk where
  entries := disk.entries ++ (List.range (path.length + 1)).map fun depth =>
    (path.take depth, .directory)

/-- Adds a link from a written path, as it reads, to where it leads. -/
def observeLinks (disk : Disk) (directory : Path) (written : Text) : IO Disk := do
  let place := (← IO.currentDir) / display written
  if ← place.pathExists then
    let target := Text.ofString (← IO.FS.realPath place).toString
    let path := Path.resolve directory written
    if Path.resolve [] target = path then return disk
    else return { disk with entries := (path, .link target) :: disk.entries }
  else return disk

/-- Adds a directory with the names under which something is found in it. The
contents of its files are not looked at. A link to nothing is left out: what is
written under its name goes where it leads. -/
def observeDirectory (disk : Disk) (path : Path) : IO Disk := do
  let place := (← IO.currentDir) / systemPath path
  if ← place.isDir then
    let names ← place.readDir
    names.toList.foldlM (fun disk entry => do
      let name := path ++ [Text.ofString entry.fileName]
      if ← entry.path.isDir then
        return { disk with entries := disk.entries ++ [(name, .directory)] }
      else if ← entry.path.pathExists then
        return { disk with entries := disk.entries ++ [(name, .file [])] }
      else return disk) (withDirectories disk path)
  else return disk

/-- Adds the file at a path. -/
def observeFile (disk : Disk) (path : Path) : IO Disk := do
  let place := (← IO.currentDir) / systemPath path
  if (← place.pathExists) && !(← place.isDir) then
    return (withDirectories disk path.parent).write path (← IO.FS.readBinFile place).data.toList
  else return disk

/-- The part of the file system that arguments ask about. -/
def observeFor (directory : Path) (arguments : Arguments) : IO Disk := do
  let disk ← observeLinks {} directory arguments.inputFile
  let disk ← observeLinks disk directory (arguments.outputDir.getD [])
  let disk ←
    match arguments.outputDirectory disk directory with
    | .ok path => observeDirectory disk path
    | .error _ => pure disk
  match arguments.input disk directory with
  | .ok path => observeFile disk path
  | .error _ => return disk

/-- The variables that defaults depend on. -/
def environment : IO Environment := do
  let names := ["LDML_COLLATION_NEWLINE", "LDML_COLLATION_TYPE", "LDML_COLLATION_LOG_LEVEL"]
  let found ← names.mapM fun name => do
    let value ← IO.getEnv name
    return value.map fun value => (Text.ofString name, Text.ofString value)
  return found.filterMap id

/-- Writes the files of an outcome and prints what it says. -/
def carryOut (outcome : Outcome) : IO UInt32 := do
  for file in outcome.written do
    IO.FS.writeBinFile (systemPath file.place) ⟨file.content.toArray⟩
  (← IO.getStderr).putStr (display outcome.messages)
  (← IO.getStdout).putStr (display outcome.output)
  return UInt32.ofNat outcome.exitCode

end Tailoring.Main

open Tailoring CommandLine in
/-- Runs the program on the words of the command line. -/
def main (arguments : List String) : IO UInt32 := do
  let words := arguments.map Text.ofString
  let directory := Path.resolve [] (Text.ofString (← IO.currentDir).toString)
  let defaults := Defaults.ofEnvironment (← Main.environment)
  let disk ←
    match Arguments.parse defaults words with
    | .ok (.convert arguments) => Main.observeFor directory arguments
    | _ => pure {}
  Main.carryOut (run Markup.parse? defaults disk directory words)
