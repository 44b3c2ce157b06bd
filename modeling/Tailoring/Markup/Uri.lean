import Tailoring.Text.Hex
import Tailoring.Text.Search

/-!
# Addresses

A namespace is named by an address. An absolute address starts with a scheme and
a colon; a relative one has neither. After that come a host, a path, a query
behind a question mark and a fragment behind a number sign, all of which may be
missing.

Each part is read by dropping the longest stretch of characters that it may
have, so an address is sound if nothing is left at the end.
-/

set_option autoImplicit false

namespace Tailoring.Markup.Uri

/-- What an address starts from. -/
inductive Kind where
  /-- It has a scheme. -/
  | absolute
  /-- It has none. -/
  | relative
  deriving DecidableEq

/-- A character that means nothing but itself. -/
def isUnreserved (c : CodePoint) : Bool :=
  c.isAlphanumeric || (Text.ofString "-._~").contains c

/-- A character of a host. -/
def isHost (c : CodePoint) : Bool :=
  isUnreserved c || (Text.ofString "!$&'()*+,;=").contains c

/-- A character in front of a host that tells who asks. -/
def isUser (c : CodePoint) : Bool :=
  isHost c || c == ':'

/-- A character of a step of a path. -/
def isStep (c : CodePoint) : Bool :=
  isUser c || c == '@'

/-- A character of a path. -/
def isPath (c : CodePoint) : Bool :=
  isStep c || c == '/'

/-- A character of a query. -/
def isQuery (c : CodePoint) : Bool :=
  isPath c || c == '?'

/-- A character of a fragment. -/
def isFragment (c : CodePoint) : Bool :=
  isQuery c || c == '[' || c == ']'

/-- Drops characters of a class from the start. A percent sign belongs to every
class together with two hexadecimal digits. -/
def skip (isPart : CodePoint → Bool) : Text → Text
  | [] => []
  | c :: rest =>
      if isPart c then skip isPart rest
      else
        match rest with
        | high :: low :: after =>
            if c = ('%' : CodePoint) ∧ high.isHexDigit ∧ low.isHexDigit then skip isPart after
            else c :: rest
        | _ => c :: rest

/-- Drops a part behind its mark, if the mark is there. -/
def skipMarked (mark : CodePoint) (isPart : CodePoint → Bool) (t : Text) : Text :=
  match t with
  | [] => []
  | c :: rest => if c = mark then skip isPart rest else t

/-- The largest number behind a host. -/
def maximalNumber : Nat := 2147483647

/-- Drops a colon and a number behind a host. A colon needs a number after it. -/
def skipNumber? (t : Text) : Option Text :=
  match Text.after? ":" t with
  | none => some t
  | some rest =>
      let digits := rest.takeWhile CodePoint.isDigit
      let number := digits.foldl (fun n c => 10 * n + (c.val - 0x30)) 0
      if digits = [] ∨ maximalNumber < number then none
      else some (rest.dropWhile CodePoint.isDigit)

/-- Drops a host, which may be anything between square brackets. -/
def skipHost? (t : Text) : Option Text :=
  match Text.after? "[" t with
  | some rest => (Text.cutAt? ']' rest).map Prod.snd
  | none => some (skip isHost t)

/-- Drops who asks, the host and the number behind it. -/
def skipAuthority? (t : Text) : Option Text := do
  let host := (Text.after? "@" (skip isUser t)).getD t
  skipNumber? (← skipHost? host)

/-- Drops two slashes with a host, and the path after it, which starts with a
slash of its own. Without a host the path is given by what it may start with. -/
def skipPlace? (isFirst : CodePoint → Bool) (t : Text) : Option Text :=
  match Text.after? "//" t with
  | some rest => do
      let path ← skipAuthority? rest
      return if path.head? = some ('/' : CodePoint) then skip isPath path else path
  | none =>
      let path := skip isFirst t
      some (if path.head? = some ('/' : CodePoint) then skip isPath path else path)

/-- The text is a query and a fragment, both of which may be missing. -/
def isEnd (t : Text) : Bool :=
  (skipMarked '#' isFragment (skipMarked '?' isQuery t)).isEmpty

/-- What follows the scheme and its colon. -/
def afterScheme? (t : Text) : Option Text :=
  let isScheme (c : CodePoint) : Bool := c.isAlphanumeric || (Text.ofString "+-.").contains c
  if t.head?.any CodePoint.isLetter then Text.after? ":" (t.dropWhile isScheme) else none

/-- The text is an address with a scheme. -/
def isAbsolute (t : Text) : Bool :=
  ((afterScheme? t).bind (skipPlace? isStep)).any isEnd

/-- The text is an address without a scheme. The first step of its path has no
colon, which would make it a scheme. -/
def isRelative (t : Text) : Bool :=
  (skipPlace? (fun c => isStep c && c != ':') t).any isEnd

/-- The kind of an address, if it is sound. -/
def kind? (t : Text) : Option Kind :=
  if isAbsolute t then some .absolute
  else if isRelative t then some .relative
  else none

end Tailoring.Markup.Uri
