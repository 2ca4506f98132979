import Latchkey.Text.Lower
import Latchkey.Text.Printable
import Latchkey.Text.Utf8
import Latchkey.Url.Direction
import Latchkey.Url.Joining
import Latchkey.Url.Punycode
/-!
# Names of hosts

The name of a host is a row of labels with points between them, in lower case. Labels may go beyond
ASCII, as they are or in their ASCII form after `xn--`. Whether a label could be written with fewer
characters is not looked at.
-/

namespace Latchkey.Domain

/-- Characters of ASCII that no name contains, control characters and the blank apart. -/
def forbidden : List Char :=
  ['%', '#', '/', ':', '<', '>', '?', '@', '[', '\\', ']', '^', '|', '\x7f']

def isForbidden (c : Char) : Bool := c ≤ ' ' || forbidden.contains c

/-- What a character becomes in a name; nothing if no name contains it. -/
def normal? (c : Char) : Option (List Char) :=
  if c.toNat < 0x80 then if isForbidden c then none else some [c.toLower]
  else if isRefused c then none
  else if isIgnored c then some []
  else some ((standsFor? c).getD [Text.lowerLetter c])

/-- Whether a character is written onto the one before it. -/
def isMark (c : Char) : Bool := !Text.isShown c || isSpacingMark c

/-- Whether a label is well formed as it is shown: it does not begin with a mark, and its joiners
have something to join. -/
def isShownLabel (label : List Char) : Bool := !label.head?.any isMark && joinersFit [] label

/-- A label of normal characters as it is shown, if it is one that a name may have. -/
def shownLabel? (label : List Char) : Option (List Char) :=
  match label with
  | 'x' :: 'n' :: '-' :: '-' :: rest =>
    (Punycode.read? rest).filter fun shown =>
      shown.all (fun c => normal? c = some [c]) && isShownLabel shown
  | label => if isShownLabel label then some label else none

/-- The name that the bytes of a text write. -/
def ofBytes? (bytes : Bytes) : Option (List Char) := do
  let text ← Utf8.read? bytes
  let name := (← text.mapM normal?).flatten
  let shown ← (name.splitOn '.').mapM shownLabel?
  if directionsFit shown then some name else none

end Latchkey.Domain
