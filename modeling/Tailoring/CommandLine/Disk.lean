import Tailoring.CommandLine.Path

/-!
# Disks

The files, directories and symbolic links that a run of the program can see, as
a value. A place is a path with no link on it. Other paths lead to a place, name
by name: a link stands for what it leads to, which need not be there. So a path
can lead to a place where nothing is, and a file written there is found under
that path from then on.

Rights, full disks and the limits of a system on names and on the number of
links are left out.
-/

set_option autoImplicit false

namespace Tailoring.CommandLine

/-- What can be at a place. -/
inductive Entry where
  | file (content : Bytes)
  | directory
  /-- A link to the path that is written so in the directory of the link. -/
  | link (target : Text)
  /-- Anything else, such as a device. -/
  | other
  deriving DecidableEq

/-- The entry is a link. -/
def Entry.isLink : Entry → Bool
  | link _ => true
  | file _ => false
  | directory => false
  | other => false

/-- Why a path leads to no place. -/
inductive Astray where
  /-- It goes on from where there is no directory. -/
  | missing
  /-- Its links lead back to themselves. -/
  | circle
  /-- A name has a null character, and no name can. -/
  | nullCharacter
  deriving DecidableEq

/-- A file that has been saved. -/
structure NewFile where
  /-- Its name in the directory that it was saved in. -/
  name : Text
  /-- Its place. -/
  place : Path
  /-- Its content. -/
  content : Bytes
  deriving DecidableEq

/-- Entries with their places. If a place is listed twice, the first one counts. -/
structure Disk where
  entries : List (Path × Entry) := []
  deriving DecidableEq

namespace Disk

/-! ## Places -/

/-- What is at a place. At the root there is always a directory. -/
def at? (disk : Disk) (place : Path) : Option Entry :=
  if place = [] then some .directory else disk.entries.lookup place

/-- There is a directory at the place. -/
def directoryAt (disk : Disk) (place : Path) : Bool :=
  disk.at? place == some .directory

/-- The target of the link at a place. -/
def link? (disk : Disk) (place : Path) : Option Text :=
  match disk.at? place with
  | some (.link target) => some target
  | _ => none

/-- The number of links. -/
def linkCount (disk : Disk) : Nat :=
  disk.entries.countP fun (_, entry) => entry.isLink

/-! ## Where paths lead -/

/-- Goes on by one name. A link is followed as `follow` says. A strict walk goes
on from directories only, others read on where nothing is. -/
def step (disk : Disk) (strict : Bool) (follow : Path → Text → Except Astray Path)
    (place : Path) (name : Text) : Except Astray Path :=
  if strict && !disk.directoryAt place then .error .missing
  else if name.contains (0 : CodePoint) then .error .nullCharacter
  else
    match if Path.isName name then disk.link? (place ++ [name]) else none with
    | some target => follow place target
    | none => .ok (place.step name)

/-- Follows a link in a directory, with at most `depth` links within one another. -/
def follow (disk : Disk) (strict : Bool) : Nat → Path → Text → Except Astray Path
  | 0, _, _ => .error .circle
  | depth + 1, directory, target =>
      (Text.splitOn '/' target).foldlM (disk.step strict (disk.follow strict depth))
        (Path.origin directory target)

/-- Goes on by some names. More links within one another than there are go in a
circle. -/
def walk (disk : Disk) (strict : Bool) (start : Path) (names : List Text) :
    Except Astray Path :=
  names.foldlM (disk.step strict (disk.follow strict disk.linkCount)) start

/-- The place that a path leads to. -/
def find (disk : Disk) (path : Path) : Except Astray Path :=
  disk.walk true [] path

/-- The path, free of links, that is written so in a directory. What is missing on
the way is taken for a directory. -/
def resolve (disk : Disk) (directory : Path) (written : Text) : Except Astray Path :=
  disk.walk false (Path.origin directory written) (Text.splitOn '/' written)

/-! ## What is found -/

/-- What a path leads to. -/
def found? (disk : Disk) (path : Path) : Option Entry :=
  match disk.find path with
  | .ok place => disk.at? place
  | .error _ => none

/-- The path leads to something. -/
def isPresent (disk : Disk) (path : Path) : Bool :=
  (disk.found? path).isSome

/-- The content of the file that a path leads to. -/
def read? (disk : Disk) (path : Path) : Option Bytes :=
  match disk.found? path with
  | some (.file content) => some content
  | _ => none

/-- The path leads to a directory. -/
def isDirectory (disk : Disk) (path : Path) : Bool :=
  disk.found? path == some .directory

/-- The names in a directory under which something is found. -/
def names (disk : Disk) (directory : Path) : List Text :=
  match disk.find directory with
  | .error _ => []
  | .ok place =>
      let listed := disk.entries.filter fun (other, _) => other.parent == place
      (listed.map fun (other, _) => other.name).filter fun name =>
        disk.isPresent (directory ++ [name])

/-! ## Writing -/

/-- Writes a file at a place, instead of what may be there. -/
def write (disk : Disk) (place : Path) (content : Bytes) : Disk where
  entries := (disk.entries.filter fun (other, _) => other != place) ++ [(place, .file content)]

/-- Writes several files, from first to last. -/
def writeAll (disk : Disk) (files : List NewFile) : Disk :=
  files.foldl (fun disk file => disk.write file.place file.content) disk

end Disk

end Tailoring.CommandLine
