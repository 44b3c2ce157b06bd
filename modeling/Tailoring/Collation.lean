import Tailoring.Item

/-!
# Collations

A collation has settings, two optional sets of characters treated specially, and
rules. A part that is absent differs from one that is empty.
-/

set_option autoImplicit false

namespace Tailoring

/-- The tailoring of one sort order. -/
structure Collation where
  /-- Names and values of the settings, in document order. -/
  settings : Option (List (Text × Text)) := none
  /-- The set of characters that start no contraction. -/
  suppressContractions : Option Text := none
  /-- The set of characters to optimise for. -/
  optimize : Option Text := none
  /-- The rules, in document order. -/
  rules : Option (List Item) := none
  deriving DecidableEq

end Tailoring
