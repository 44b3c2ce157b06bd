import Tailoring.Text.Blank
import Tailoring.Text.Capital

/-!
# Defaults

What the program takes where the command line says nothing. The environment can
change it.
-/

set_option autoImplicit false

namespace Tailoring.CommandLine

/-- Names and values of environment variables. -/
abbrev Environment := List (Text × Text)

/-- What holds where the command line says nothing. -/
structure Defaults where
  /-- The name of the line break. -/
  newlineStyle : Text := "lf"
  /-- The type of collation. -/
  collationType : Text := "standard"
  /-- How much is reported. -/
  logLevel : Text := "WARNING"
  deriving DecidableEq

/-- The value of a variable, or what holds without it. -/
def Environment.getD (environment : Environment) (name default : Text) : Text :=
  (environment.lookup name).getD default

/-- The defaults in an environment. -/
def Defaults.ofEnvironment (environment : Environment) : Defaults where
  newlineStyle := Environment.getD environment "LDML_COLLATION_NEWLINE" "lf"
  collationType := Environment.getD environment "LDML_COLLATION_TYPE" "standard"
  logLevel :=
    Text.toCapitals (Environment.getD environment "LDML_COLLATION_LOG_LEVEL" "WARNING")

/-- The line break of a style, named in any letter case and with blanks around.
The names have ASCII letters only, and no other letter is a variant of one of
theirs. -/
def newlineOf? (style : Text) : Option Text :=
  let name := (Text.trim style).map CodePoint.toSmall
  if name = "lf" then some "\n"
  else if name = "crlf" then some "\r\n"
  else none

end Tailoring.CommandLine
