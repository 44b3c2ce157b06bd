import Tailoring.Item.Data

/-!
# Clauses of ICU rules

The rules of a collation are written to ICU as a sequence of clauses. A reset or
a relation has one datum, which may turn out to be the variable top; the clause
of an extended item is never looked at for it.
-/

set_option autoImplicit false

namespace Tailoring

/-- The sign that ICU writes before the datum of a relation. -/
def Strength.operator : Strength → Text
  | primary => "<"
  | secondary => "<<"
  | tertiary => "<<<"
  | identical => "="

/-- One step of ICU rules. -/
inductive Clause where
  /-- Moves to a position, possibly to just before it. -/
  | reset (before datum : Text)
  /-- Puts a datum after what came before. -/
  | relation (strength : Strength) (datum : Text)
  /-- A relation with context or extension. -/
  | extended (body : Text)
  deriving DecidableEq

namespace Clause

/-- What stands before the datum of a clause. -/
def lead (newline : Text) : Clause → Text
  | reset before _ => newline ++ "& " ++ before
  | relation strength _ => " " ++ strength.operator ++ " "
  | extended body => body

/-- The datum of a clause that has one. -/
def datum? : Clause → Option Text
  | reset _ datum => some datum
  | relation _ datum => some datum
  | extended _ => none

end Clause

namespace Item

/-- Adds one part to the body of an extended item. A relation goes in front of
what has been gathered so far. -/
def extendBody (body : Text) (part : Item) : Except Fault Text :=
  match part.role? with
  | some .context => part.literal.map fun datum => body ++ datum ++ " | "
  | some .extension => part.literal.map fun datum => body ++ " / " ++ datum
  | some (.relation strength) =>
      part.literal.map fun datum => " " ++ strength.operator ++ " " ++ body ++ datum
  | _ => .error (.unknownPart part.kind)

/-- The clauses of an item. A sequence has one for each of its scalars, whether
or not the item also has an anchor. -/
def clauses (item : Item) : Except Fault (List Clause) :=
  match item.role? with
  | some .reset => do
      let before ← item.beforeOption
      let datum ← item.literal
      return [.reset before datum]
  | some (.relation strength) => do
      let datum ← item.literal
      return [.relation strength datum]
  | some (.sequence strength) =>
      if item.isEmpty then .error (.emptyRule item.kind)
      else do
        let data ← item.data
        return (Text.scalars data).map fun s => .relation strength (Literal.ofScalar s)
  | some .extended => do
      let body ← item.children.foldlM extendBody []
      return [.extended body]
  | _ => .error (.unknownRule item.kind)

/-- The clauses of all items, in order. -/
def clausesOfAll (items : List Item) : Except Fault (List Clause) := do
  let clauses ← items.mapM clauses
  return clauses.flatten

end Item

end Tailoring
