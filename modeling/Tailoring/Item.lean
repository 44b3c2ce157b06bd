import Tailoring.Literal
import Tailoring.Reference

/-!
# Rule items

The rules of a collation are a list of items. An item names a kind of rule and
carries what the rule is about: literal text, character references, or an
anchor, a position known by name. An extended item has parts instead, which are
items themselves.

Kinds are an open vocabulary: `Role.ofKind?` says what the known ones do.
-/

set_option autoImplicit false

namespace Tailoring

/-- How much a character differs from the one before it in the order. -/
inductive Strength where
  | primary
  | secondary
  | tertiary
  | identical
  deriving DecidableEq, Repr

/-- What a kind of item does in a rule. -/
inductive Role where
  /-- Moves to a position in the order. -/
  | reset
  /-- Puts its data after what came before. -/
  | relation (strength : Strength)
  /-- Puts its scalars one after another. -/
  | sequence (strength : Strength)
  /-- A relation with context or extension, given by parts. -/
  | extended
  /-- The part before the data of an extended item. -/
  | context
  /-- The part after the data of an extended item. -/
  | extension
  deriving DecidableEq, Repr

/-- The kinds of item that have a role. -/
def Role.kinds : List (Text × Role) :=
  [("reset", .reset),
   ("p", .relation .primary), ("s", .relation .secondary),
   ("t", .relation .tertiary), ("i", .relation .identical),
   ("pc", .sequence .primary), ("sc", .sequence .secondary),
   ("tc", .sequence .tertiary), ("ic", .sequence .identical),
   ("x", .extended), ("context", .context), ("extend", .extension)]

/-- The role of a kind of item. -/
def Role.ofKind? (kind : Text) : Option Role :=
  Role.kinds.lookup kind

/-- One rule of a collation, or one part of an extended rule. -/
structure Item where
  /-- The name of the rule. -/
  kind : Text
  /-- Literal text. -/
  text : Text := []
  /-- The digits of the character references. -/
  codePoints : List Text := []
  /-- The name of the position that stands in place of data. -/
  anchor : Option Text := none
  /-- The strength before whose position a reset lies. -/
  before : Option Text := none
  /-- The parts of an extended item. -/
  children : List Item := []

namespace Item

mutual

/-- Equality of items is decidable. -/
def decideEq : (a b : Item) → Decidable (a = b)
  | ⟨kind, text, codePoints, anchor, before, children⟩,
    ⟨kind', text', codePoints', anchor', before', children'⟩ =>
      match decideEqList children children' with
      | isTrue sameChildren =>
          decidable_of_iff
            (kind = kind' ∧ text = text' ∧ codePoints = codePoints' ∧ anchor = anchor' ∧
              before = before')
            (by simp [sameChildren])
      | isFalse differ => isFalse (by simp [differ])

/-- Equality of lists of items is decidable. -/
def decideEqList : (a b : List Item) → Decidable (a = b)
  | [], [] => isTrue rfl
  | [], _ :: _ => isFalse (by simp)
  | _ :: _, [] => isFalse (by simp)
  | a :: as, b :: bs =>
      match decideEq a b, decideEqList as bs with
      | isTrue sameHead, isTrue sameTail => isTrue (by simp [sameHead, sameTail])
      | isFalse differ, _ => isFalse (by simp [differ])
      | _, isFalse differ => isFalse (by simp [differ])

end

instance : DecidableEq Item :=
  decideEq

/-- An item without text, references, anchor and parts. -/
def isEmpty (item : Item) : Bool :=
  item.text.isEmpty && item.codePoints.isEmpty && item.anchor.isNone && item.children.isEmpty

/-- What the item does in a rule. -/
def role? (item : Item) : Option Role :=
  Role.ofKind? item.kind

end Item

end Tailoring
