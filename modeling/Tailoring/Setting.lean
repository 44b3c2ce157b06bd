import Tailoring.Literal
import Tailoring.Reference

/-!
# Settings

A setting of a collation is a name and a value. Most settings become a directive
of ICU rules, some with another spelling. The variable top is no directive: it
names the literal after which the marker goes. Other settings say nothing to
ICU.
-/

set_option autoImplicit false

namespace Tailoring

/-- What a setting contributes to ICU rules. -/
inductive Setting where
  /-- A directive with a name and a value. -/
  | directive (name value : Text)
  /-- The literal after which the variable characters end. -/
  | variableTop (target : Text)
  /-- A setting without a meaning in ICU rules. -/
  | unsupported (name : Text)
  deriving DecidableEq

namespace Setting

/-- The settings that ICU takes under the same name with the same value. -/
def verbatim : List Text :=
  ["alternate", "normalization", "caseLevel", "caseFirst", "numeric"]

/-- The values of the strength setting and their spelling in ICU rules. -/
def strengths : List (Text × Text) :=
  [("primary", "1"), ("secondary", "2"), ("tertiary", "3"), ("quaternary", "4"),
   ("identical", "I")]

/-- The values of the backwards setting and their spelling in ICU rules. -/
def backwards : List (Text × Text) :=
  [("off", "1"), ("on", "2")]

/-- What a setting of this name and value contributes. -/
def read (name value : Text) : Except Fault Setting :=
  if verbatim.contains name then .ok (.directive name value)
  else if name = "strength" then
    match strengths.lookup value with
    | some spelling => .ok (.directive "strength" spelling)
    | none => .error (.unknownStrength value)
  else if name = "backwards" then
    match backwards.lookup value with
    | some spelling => .ok (.directive "backwards" spelling)
    | none => .error (.unknownBackwards value)
  else if name = "hiraganaQuaternary" then .ok (.directive "hiraganaQ" value)
  else if name = "variableTop" then
    (Reference.sequence value).map fun top => .variableTop (Literal.ofText top)
  else .ok (.unsupported name)

/-- What all settings contribute, in order. -/
def readAll (settings : List (Text × Text)) : Except Fault (List Setting) :=
  settings.mapM fun (name, value) => read name value

/-- A directive on a line of its own. -/
def render (newline : Text) : Setting → Text
  | directive name value => newline ++ "[" ++ name ++ " " ++ value ++ "]"
  | variableTop _ => []
  | unsupported _ => []

/-- The literal of a variable top. -/
def target? : Setting → Option Text
  | variableTop target => some target
  | directive _ _ => none
  | unsupported _ => none

/-- The directives of all settings. -/
def renderAll (newline : Text) (settings : List Setting) : Text :=
  settings.flatMap (render newline)

/-- The variable top of all settings: the last one given. -/
def lastTarget? (settings : List Setting) : Option Text :=
  (settings.filterMap target?).getLast?

end Setting

end Tailoring
