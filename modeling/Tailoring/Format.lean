import Tailoring.IcuRules
import Tailoring.SimpleRules

/-!
# Output formats

A format turns a collation into products, texts ready to be saved. The simple
format has no product for a collation that it cannot express; the preferred
format then falls back on ICU rules.
-/

set_option autoImplicit false

namespace Tailoring

/-- The language that a product is written in. -/
inductive Dialect where
  | icu
  | simple
  deriving DecidableEq, Repr

/-- The name of a dialect. -/
def Dialect.name : Dialect → Text
  | icu => "icu"
  | simple => "simple"

/-- One text made from a collation. -/
structure Product where
  /-- What the name of its file ends with. -/
  suffix : Text
  /-- The rules. -/
  content : Text
  /-- The language of the rules. -/
  dialect : Dialect
  deriving DecidableEq

/-- The media type of a product. -/
def Product.mediaType (_ : Product) : Text := "text/plain"

/-- A choice of output. -/
inductive Format where
  | icu
  | preferred
  | simple
  deriving DecidableEq, Repr

namespace Format

/-- All formats, by their keys in alphabetical order. -/
def all : List Format :=
  [icu, preferred, simple]

/-- What a format is asked for by. -/
def key : Format → Text
  | icu => "icu_rules"
  | preferred => "preferred"
  | simple => "simple_rules"

/-- What a format is called. -/
def name : Format → Text
  | icu => "ICU Rules"
  | preferred => "Preferred Rules"
  | simple => "Simple Rules"

/-- What the names of the products end with. -/
def suffix : Format → Text
  | icu => "-icu-rules.txt"
  | preferred => "-rules.txt"
  | simple => "-simple-rules.txt"

/-- The format with this key. -/
def ofKey? (key : Text) : Option Format :=
  all.find? fun format => format.key = key

/-- The products of a collation. -/
def products (newline : Text) (collation : Collation) (format : Format) :
    Except Fault (List Product) :=
  match format with
  | icu => do
      let rules ← collation.icuRules newline
      return [⟨format.suffix, rules, .icu⟩]
  | simple => do
      match ← collation.simpleRules? newline with
      | some rules => return [⟨format.suffix, rules, .simple⟩]
      | none => return []
  | preferred => do
      match ← collation.simpleRules? newline with
      | some rules => return [⟨format.suffix, rules, .simple⟩]
      | none =>
          let rules ← collation.icuRules newline
          return [⟨format.suffix, rules, .icu⟩]

/-- The notes on making the products. -/
def notes (newline : Text) (collation : Collation) (format : Format) : List Note :=
  match format with
  | icu => collation.icuNotes newline
  | simple => collation.simpleNotes newline
  | preferred =>
      collation.simpleNotes newline ++
        match collation.simpleRules? newline with
        | .ok none => .simpleUnavailable :: collation.icuNotes newline
        | _ => []

end Format

end Tailoring
