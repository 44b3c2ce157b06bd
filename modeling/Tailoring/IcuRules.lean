import Tailoring.Collation
import Tailoring.IcuRules.Clause
import Tailoring.Note
import Tailoring.Setting

/-!
# ICU rules

A collation as the text of an ICU tailoring: directives for the settings, then
for the options, then the clauses of the rules.

The variable top is a literal. Its marker follows the first datum that is this
literal; if there is none, a reset to the literal stands right after the
settings and carries the marker.
-/

set_option autoImplicit false

namespace Tailoring

namespace VariableTop

/-- What follows the datum that is the variable top. -/
def marker : Text := " < [variable top]"

/-- What follows a datum while a literal is pending, and what is pending
afterwards. -/
def take (pending : Option Text) (datum : Text) : Text × Option Text :=
  if pending = some datum then (marker, none) else ([], pending)

/-- The reset to a literal that no datum is. -/
def fallback (newline : Text) : Option Text → Text
  | none => []
  | some target => newline ++ "&" ++ target ++ marker

end VariableTop

/-- The options of a collation. -/
inductive OptionName where
  | suppressContractions
  | optimize
  deriving DecidableEq, Repr

namespace OptionName

/-- The option with this element name. -/
def ofName? (name : Text) : Option OptionName :=
  if name = "suppress_contractions" then some suppressContractions
  else if name = "optimize" then some optimize
  else none

/-- The name of an option in ICU rules. -/
def label : OptionName → Text
  | suppressContractions => "suppress contractions"
  | optimize => "optimize"

/-- The directive of an option on a line of its own. -/
def render (newline value : Text) (option : OptionName) : Text :=
  newline ++ "[" ++ option.label ++ " " ++ value ++ "]"

/-- The directive of the option with this element name. -/
def directive (newline name value : Text) : Except Fault Text :=
  match ofName? name with
  | some option => .ok (option.render newline value)
  | none => .error (.unknownOption name)

end OptionName

namespace IcuRules

/-- Writes clauses while a literal is pending, and says what is pending
afterwards. -/
def write (newline : Text) (pending : Option Text) : List Clause → Text × Option Text
  | [] => ([], pending)
  | clause :: rest =>
      match clause.datum? with
      | none =>
          let (written, pending') := write newline pending rest
          (clause.lead newline ++ written, pending')
      | some datum =>
          let (mark, pending') := VariableTop.take pending datum
          let (written, pending'') := write newline pending' rest
          (clause.lead newline ++ datum ++ mark ++ written, pending'')

/-- Drops the blanks at both ends, but none at the end if the last backslash
stands just before the last character and so escapes it. -/
def trim (rules : Text) : Text :=
  if Text.lastIndexOf? [backslash] rules = some (rules.length - 2) ∧ 2 ≤ rules.length then
    rules.trimStart
  else Text.trim rules

end IcuRules

namespace Collation

/-- The directives of the options that a collation has. -/
def optionDirectives (newline : Text) (collation : Collation) : Text :=
  (collation.suppressContractions.elim []
    (OptionName.render newline · .suppressContractions)) ++
  (collation.optimize.elim [] (OptionName.render newline · .optimize))

/-- What the settings of a collation contribute. -/
def readSettings (collation : Collation) : Except Fault (List Setting) :=
  Setting.readAll (collation.settings.getD [])

/-- The clauses of the rules of a collation. -/
def clauses (collation : Collation) : Except Fault (List Clause) :=
  Item.clausesOfAll (collation.rules.getD [])

/-- A collation as ICU rules, with this line break before directives and
resets. -/
def icuRules (newline : Text) (collation : Collation) : Except Fault Text := do
  let settings ← collation.readSettings
  let clauses ← collation.clauses
  let (body, pending) := IcuRules.write newline (Setting.lastTarget? settings) clauses
  return IcuRules.trim
    (Setting.renderAll newline settings ++ VariableTop.fallback newline pending ++
      collation.optionDirectives newline ++ body)

/-- The notes on settings that say nothing to ICU, up to the first faulty one. -/
def settingNotes : List (Text × Text) → List Note
  | [] => []
  | (name, value) :: rest =>
      match Setting.read name value with
      | .ok (.unsupported ignored) => .settingIgnored ignored :: settingNotes rest
      | .ok _ => settingNotes rest
      | .error _ => []

/-- The notes on writing a collation as ICU rules. -/
def icuNotes (newline : Text) (collation : Collation) : List Note :=
  settingNotes (collation.settings.getD []) ++
    match collation.readSettings, collation.clauses with
    | .ok settings, .ok clauses =>
        (collation.rules.elim [] fun items => [.rulesWritten items.length]) ++
          (IcuRules.write newline (Setting.lastTarget? settings) clauses).2.elim []
            fun target => [.variableTopUnplaced target]
    | _, _ => []

end Collation

end Tailoring
