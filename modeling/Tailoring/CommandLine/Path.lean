import Tailoring.Text.Search

/-!
# Paths

A path is the sequence of names from the root of the file system down. Written
paths are read from a working directory: `.` stays where it is and `..` goes
one directory up. This is how a path reads; where it leads is a matter of the
links on a disk.
-/

set_option autoImplicit false

namespace Tailoring.CommandLine

/-- The names from the root of the file system down to a file or directory. -/
abbrev Path := List Text

namespace Path

/-- A file or directory can have the name. -/
def isName (name : Text) : Bool :=
  decide (name ≠ [] ∧ name ≠ "." ∧ name ≠ "..")

/-- Goes one written step from a path. -/
def step (path : Path) (name : Text) : Path :=
  if isName name then path ++ [name]
  else if name = ".." then path.dropLast
  else path

/-- Where a written path starts: at the root, or in the directory that it is read
in. -/
def origin (directory : Path) (written : Text) : Path :=
  if written.head? = some ('/' : CodePoint) then [] else directory

/-- The path that is written so in a directory. -/
def resolve (directory : Path) (written : Text) : Path :=
  (Text.splitOn '/' written).foldl step (origin directory written)

/-- A path as it is written from the root. -/
def render (path : Path) : Text :=
  "/" ++ Text.join "/" path

/-- The last name of a path. -/
def name (path : Path) : Text :=
  path.getLast?.getD []

/-- The directory that a path lies in. -/
def parent (path : Path) : Path :=
  path.dropLast

/-- A file name without its last extension. A dot at either end starts none. -/
def stemOf (name : Text) : Text :=
  match Text.lastIndexOf? "." name with
  | some index => if 0 < index ∧ index + 1 < name.length then name.take index else name
  | none => name

end Path

end Tailoring.CommandLine
