import Tailoring.CommandLine.Path

/-!
# Names of output files

An output file is named by the stem of the input and a suffix. If the name is
taken, the least number from two on that makes a free name goes before the
extension.
-/

set_option autoImplicit false

namespace Tailoring.CommandLine.OutputName

/-- A suffix cut before its extension. The extension starts at the last dot of
the last name in it; dots that the name starts with start none. -/
def splitExtension (suffix : Text) : Text × Text :=
  let nameStart := (Text.lastIndexOf? "/" suffix).elim 0 (· + 1)
  match Text.lastIndexOf? "." suffix with
  | some dot =>
      if ((suffix.take dot).drop nameStart).any (· != ('.' : CodePoint)) then
        (suffix.take dot, suffix.drop dot)
      else (suffix, [])
  | none => (suffix, [])

/-- The name with a number before the extension. -/
def numbered (stem suffix : Text) (number : Nat) : Text :=
  let (root, extension) := splitExtension suffix
  stem ++ root ++ "-" ++ Text.ofNat number ++ extension

/-- No new file can have the name: it is in use, or stands for a directory. -/
def isTaken (existing : List Text) (name : Text) : Bool :=
  !Path.isName name || existing.contains name

/-- The least number from two on whose name is free. One more than the number of
names in use always is enough. -/
def freeNumber (existing : List Text) (stem suffix : Text) : Nat :=
  let candidates := List.range' 2 (existing.length + 1)
  (candidates.find? fun number => !isTaken existing (numbered stem suffix number)).getD
    (existing.length + 2)

/-- The name for an output file among the names in use. -/
def choose (existing : List Text) (stem suffix : Text) : Text :=
  if isTaken existing (stem ++ suffix) then
    numbered stem suffix (freeNumber existing stem suffix)
  else stem ++ suffix

end Tailoring.CommandLine.OutputName
