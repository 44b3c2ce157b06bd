import Tailoring.Text.Scalar
import Tailoring.Text.Search

/-!
# Drafts of simple rules

Simple rules are drafted from start to end. A tertiary difference is known only
when it comes, after the token that it belongs to has been written: then the
opening bracket goes in front of that token, which starts after the last line
break or space.
-/

set_option autoImplicit false

namespace Tailoring.SimpleRules

/-- Simple rules written so far. -/
structure Draft where
  /-- The text so far. -/
  text : Text := []
  /-- A bracket is open. -/
  inGroup : Bool := false
  deriving DecidableEq

namespace Draft

/-- Adds a text at the end. -/
def append (draft : Draft) (added : Text) : Draft :=
  { draft with text := draft.text ++ added }

/-- Adds every scalar of a text at the end, each after a separator. -/
def appendEach (draft : Draft) (separator data : Text) : Draft :=
  draft.append ((Text.scalars data).flatMap fun s => separator ++ s.text)

/-- Closes the bracket, if one is open. -/
def endGroup (draft : Draft) : Draft :=
  if draft.inGroup then { text := draft.text ++ ")", inGroup := false } else draft

/-- Where the last token starts. -/
def tokenStart (newline text : Text) : Nat :=
  let afterNewline := (Text.lastIndexOf? newline text).elim 0 (· + newline.length)
  let afterSpace := (Text.lastIndexOf? [space] text).elim 0 (· + 1)
  max afterNewline afterSpace

/-- Opens a bracket before the last token, unless one is open. -/
def beginGroup (newline : Text) (draft : Draft) : Draft :=
  if draft.inGroup then draft
  else
    let start := tokenStart newline draft.text
    { text := draft.text.take start ++ "(" ++ draft.text.drop start, inGroup := true }

end Draft

end Tailoring.SimpleRules
