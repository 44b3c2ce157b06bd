/-!
# Findings

Not everything that is wrong with a document makes it unreadable. What is found
on the way is put on record, and the last finding on record decides: if it is an
error, the document is refused after all.
-/

set_option autoImplicit false

namespace Tailoring.Markup

/-- Something found in a document that can still be read. -/
inductive Finding where
  | warning
  | error
  deriving DecidableEq

/-- The findings on record. -/
structure Findings where
  /-- How many warnings there are. -/
  warnings : Nat := 0
  /-- How many errors there are. -/
  errors : Nat := 0
  /-- The last finding is an error. -/
  endsInError : Bool := false
  deriving DecidableEq

namespace Findings

/-- How many findings of a kind are put on record. -/
def maximalCount : Nat := 100

/-- Puts a finding on record, unless there are too many of its kind. -/
def add (findings : Findings) (finding : Finding) : Findings :=
  match finding with
  | .warning =>
      if findings.warnings < maximalCount then
        { findings with warnings := findings.warnings + 1, endsInError := false }
      else findings
  | .error =>
      if findings.errors < maximalCount then
        { findings with errors := findings.errors + 1, endsInError := true }
      else findings

/-- Puts findings on record one after the other. -/
def addAll (findings : Findings) (found : List Finding) : Findings :=
  found.foldl add findings

end Findings

end Tailoring.Markup
