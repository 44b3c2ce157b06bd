import Tailoring.Text.Printable

/-!
# Notes

What the library reports about its work to someone who looks for the reason of a
result. Notes never change a result.
-/

set_option autoImplicit false

namespace Tailoring

/-- A diagnostic remark. -/
inductive Note where
  /-- A setting says nothing to ICU. -/
  | settingIgnored (name : Text)
  /-- All rules have been written. -/
  | rulesWritten (count : Nat)
  /-- No datum of the rules is the variable top. -/
  | variableTopUnplaced (target : Text)
  /-- Settings rule simple rules out. -/
  | settingsNotSimple
  /-- The first rule rules simple rules out. -/
  | startNotSimple
  /-- A rule of this kind rules simple rules out. -/
  | ruleNotSimple (kind : Text)
  /-- ICU rules take the place of simple ones. -/
  | simpleUnavailable
  /-- A collation has been found in a document. -/
  | collationFound (type path : Text)
  /-- A part of a collation is not looked at. -/
  | partSkipped (name : Text)
  deriving DecidableEq

namespace Note

/-- The part of the program that makes the remark. -/
def source : Note → Text
  | settingIgnored _ | rulesWritten _ | variableTopUnplaced _ =>
      "ldml_collation.core.compiler"
  | settingsNotSimple | startNotSimple | ruleNotSimple _ =>
      "ldml_collation.core.simple_rules"
  | simpleUnavailable => "ldml_collation.formatters.preferred"
  | collationFound _ _ | partSkipped _ => "ldml_collation.adapters.ldml_adapter"

/-- The wording of a note. -/
def message : Note → Text
  | settingIgnored name => "Ignoring unsupported collation setting '" ++ name ++ "'"
  | rulesWritten count => "Compiled " ++ Text.ofNat count ++ " collation rule items"
  | variableTopUnplaced target =>
      "Variable top " ++ Text.quoted target ++
        " not found in rules; resetting to it after settings"
  | settingsNotSimple => "Simple rules cannot express collation settings"
  | startNotSimple =>
      "Simple rules must start with a primary reset before the first regular element"
  | ruleNotSimple kind => "Simple rules cannot express '" ++ kind ++ "' rule elements"
  | simpleUnavailable => "Tree not representable as simple rules; using ICU rules"
  | collationFound type path => "Loaded <collation type=\"" ++ type ++ "\"> from " ++ path
  | partSkipped name => "Skipping <" ++ name ++ "> in <collation>"

end Note

end Tailoring
