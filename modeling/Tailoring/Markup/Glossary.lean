import Tailoring.Markup.Declaration
import Tailoring.Markup.Finding

/-!
# Declared names

What the names stand for that a document refers to. Text that is declared under a
name may refer to further names, but not without end: neither how deep this goes
nor how much text comes of it is unlimited.
-/

set_option autoImplicit false

namespace Tailoring.Markup

/-- The names that a document may refer to. -/
structure Glossary where
  /-- What is declared, first declarations first. -/
  definitions : List (Text × Definition) := []
  /-- Names may be declared where they are not looked for. -/
  incomplete : Bool := false

namespace Glossary

/-- How deep references within declared text may go. -/
def maximalDepth : Nat := 20

/-- What a reference costs beside the text that it stands for. -/
def referenceCost : Nat := 20

/-- How much all references of a document may cost in any case. -/
def freeCost : Nat := 1000000

/-- How many times the length of a document its references may cost. -/
def costFactor : Nat := 5

/-- A name that is not declared is a warning if it may be declared elsewhere, and
makes the document unreadable otherwise. -/
def missing? (glossary : Glossary) : Option (List Finding) :=
  if glossary.incomplete then some [.warning] else none

/-- The names that a text refers to. -/
def namesIn (t : Text) : List Text :=
  ((valueParts? id t).getD []).filterMap fun part =>
    match part with
    | .plain _ => none
    | .named name => some name

/-- What every name costs, given what names cost without the deepest references. -/
def costsAbove (glossary : Glossary) (costs : List (Text × Nat)) : List (Text × Nat) :=
  glossary.definitions.map fun (name, definition) =>
    match definition with
    | .text replacement =>
        (name, (namesIn replacement).foldl
          (fun cost name => cost + referenceCost + (costs.lookup name).getD 0) replacement.length)
    | .elsewhere => (name, 0)
    | .foreign => (name, 0)

/-- What every name costs, with references as deep as they may go. -/
def costs (glossary : Glossary) : List (Text × Nat) :=
  Nat.repeat (costsAbove glossary) (maximalDepth + 1) []

/-- What a reference to a name costs. -/
def cost (costs : List (Text × Nat)) (name : Text) : Nat :=
  referenceCost + (costs.lookup name).getD 0

/-- References of this cost are too much for a document of this length. -/
def isExcessive (spent length : Nat) : Bool :=
  decide (freeCost < spent ∧ costFactor * length < spent)

/-- The text of a value, with references up to a depth, and what is found in it.
Text that has tags, is kept elsewhere or is no text cannot be part of a value. -/
def expand? (glossary : Glossary) : Nat → List ValuePart → Option (Text × List Finding)
  | 0, _ => none
  | depth + 1, parts => do
      let expanded ← parts.mapM fun part =>
        match part with
        | .plain content => some (content, [])
        | .named name =>
            match glossary.definitions.lookup name with
            | none => glossary.missing?.map fun found => ([], found)
            | some .elsewhere => none
            | some .foreign => none
            | some (.text replacement) =>
                if replacement.contains '<' then none
                else (valueParts? id replacement).bind (expand? glossary depth)
      return ((expanded.map Prod.fst).flatten, (expanded.map Prod.snd).flatten)

/-- The text of a value and what is found in it. -/
def value? (glossary : Glossary) (parts : List ValuePart) : Option (Text × List Finding) :=
  glossary.expand? maximalDepth parts

/-- The names with a definition that a value refers to. -/
def knownIn (glossary : Glossary) (parts : List ValuePart) : List Text :=
  parts.filterMap fun part =>
    match part with
    | .plain _ => none
    | .named name => if (glossary.definitions.lookup name).isSome then some name else none

end Glossary

end Tailoring.Markup
