import Tailoring.Text.Hex

/-!
# Faults

Why a collation is rejected. Every fault knows the element that it is reported
against and has one wording.
-/

set_option autoImplicit false

namespace Tailoring

/-- A cause for rejecting a collation. -/
inductive Fault where
  /-- A Unicode escape that encodes no code point. -/
  | escapeRange (escape : Text)
  /-- A number that is not a Unicode scalar value. -/
  | notScalar (value : Int) (element : Text)
  /-- A character code that is not spelled in hexadecimal. -/
  | notHex (digits element : Text)
  /-- A rule with neither text nor content. -/
  | emptyRule (kind : Text)
  /-- A reset before something else than a strength. -/
  | unknownBefore (value kind : Text)
  /-- A strength setting with an unknown value. -/
  | unknownStrength (value : Text)
  /-- A backwards setting with an unknown value. -/
  | unknownBackwards (value : Text)
  /-- An option of an unknown name. -/
  | unknownOption (name : Text)
  /-- A rule of an unknown kind. -/
  | unknownRule (kind : Text)
  /-- A part of an extended rule of an unknown kind. -/
  | unknownPart (kind : Text)
  /-- An element that is no collation. -/
  | notCollation (name : Text)
  /-- A document without a collation of the type asked for. -/
  | noCollation (type path : Text)
  deriving DecidableEq

namespace Fault

/-- The wording of a fault. -/
def message : Fault → Text
  | escapeRange escape => "Invalid Unicode code point in escape sequence: " ++ escape
  | notScalar value element =>
      "Invalid Unicode code point U+" ++ Hex.ofInt value ++ " in LDML '" ++ element ++
        "' element."
  | notHex digits element =>
      "Invalid non-hexadecimal character code '" ++ digits ++ "' in LDML '" ++ element ++
        "' element."
  | emptyRule kind => "Empty LDML collation rule: " ++ kind
  | unknownBefore value _ =>
      "Invalid before specifier '" ++ value ++ "' on reset collation element."
  | unknownStrength value => "Invalid collation strength setting in LDML: '" ++ value ++ "'"
  | unknownBackwards value => "Invalid backwards setting in LDML collation: '" ++ value ++ "'"
  | unknownOption name => "Invalid LDML collation option element: " ++ name
  | unknownRule kind => "Invalid LDML collation rule element: " ++ kind
  | unknownPart kind => "Invalid node in extended LDML collation rule: " ++ kind
  | notCollation name => "Expected a <collation> element, got <" ++ name ++ ">"
  | noCollation type path => "No <collation type=\"" ++ type ++ "\"> element in " ++ path

/-- The element that a fault is reported against. -/
def element : Fault → Text
  | escapeRange _ => "rules"
  | notScalar _ element => element
  | notHex _ element => element
  | emptyRule kind => kind
  | unknownBefore _ kind => kind
  | unknownStrength _ => "settings"
  | unknownBackwards _ => "settings"
  | unknownOption name => name
  | unknownRule kind => kind
  | unknownPart kind => kind
  | notCollation name => name
  | noCollation _ _ => "collation"

end Fault

/-- What a caller has left out. -/
inductive Absence where
  | collation
  | element
  deriving DecidableEq

/-- The wording of an absence. -/
def Absence.message : Absence → Text
  | collation => "A collation tree is required."
  | element => "A collation element is required."

end Tailoring
