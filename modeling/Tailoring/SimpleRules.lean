import Tailoring.Collation
import Tailoring.Item.Data
import Tailoring.Note
import Tailoring.SimpleRules.Draft

/-!
# Simple rules

The simple dialect lists characters in order: a new line for a primary
difference, a space for a secondary one, and brackets around what differs only
in tertiary ways. It can say nothing else, so a collation has simple rules only
if it has no settings, starts before the first regular character and uses plain
relations. Its text is not escaped.
-/

set_option autoImplicit false

namespace Tailoring

namespace SimpleRules

/-- The item resets to before the first regular character. -/
def isStart (item : Item) : Except Fault Bool :=
  if item.role? = some .reset then do
    let before ← item.beforeOption
    if before = "[before 1] " then
      let position ← item.literal
      return decide (position = "[first regular]")
    else return false
  else return false

/-- Readies a draft for data of a strength: a tertiary difference needs an open
bracket, the others a closed one. -/
def prepare (newline : Text) : Strength → Draft → Draft
  | .tertiary, draft => draft.beginGroup newline
  | _, draft => draft.endGroup

/-- What stands before data of a strength. Identical data cannot be told. -/
def separator? (newline : Text) : Strength → Option Text
  | .primary => some newline
  | .secondary => some [space]
  | .tertiary => some [space]
  | .identical => none

/-- Adds one item to a draft, if the dialect can express it. -/
def addItem (newline : Text) (draft : Draft) (item : Item) : Except Fault (Option Draft) :=
  match item.role? with
  | some (.relation strength) =>
      match separator? newline strength with
      | some separator => item.data.map fun data =>
          some ((prepare newline strength draft).append (separator ++ data))
      | none => .ok none
  | some (.sequence strength) =>
      match separator? newline strength with
      | some separator => item.data.map fun data =>
          some ((prepare newline strength draft).appendEach separator data)
      | none => .ok none
  | _ => .ok none

/-- Adds items to a draft up to the first that the dialect cannot express. -/
def addItems (newline : Text) (draft : Draft) : List Item → Except Fault (Option Draft)
  | [] => .ok (some draft)
  | item :: rest => do
      match ← addItem newline draft item with
      | some draft' => addItems newline draft' rest
      | none => return none

/-- Items as simple rules, if the dialect can express them. -/
def ofItems (newline : Text) : List Item → Except Fault (Option Text)
  | [] => .ok (some [])
  | first :: rest => do
      if ← isStart first then
        let draft ← addItems newline {} rest
        return draft.map fun draft => Text.trim draft.endGroup.text
      else return none

/-- The notes on items that the dialect cannot express. -/
def itemNotes (newline : Text) (draft : Draft) : List Item → List Note
  | [] => []
  | item :: rest =>
      match addItem newline draft item with
      | .ok (some draft') => itemNotes newline draft' rest
      | .ok none => [.ruleNotSimple item.kind]
      | .error _ => []

end SimpleRules

namespace Collation

/-- A collation as simple rules, if the dialect can express it. The options of
the collation are not looked at. -/
def simpleRules? (newline : Text) (collation : Collation) : Except Fault (Option Text) :=
  match collation.settings, collation.rules with
  | some _, _ => .ok none
  | none, none => .ok (some [])
  | none, some items => SimpleRules.ofItems newline items

/-- The notes on writing a collation as simple rules. -/
def simpleNotes (newline : Text) (collation : Collation) : List Note :=
  match collation.settings, collation.rules with
  | some _, _ => [.settingsNotSimple]
  | none, some (first :: rest) =>
      match SimpleRules.isStart first with
      | .ok true => SimpleRules.itemNotes newline {} rest
      | .ok false => [.startNotSimple]
      | .error _ => []
  | none, _ => []

end Collation

end Tailoring
