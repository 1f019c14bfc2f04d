import LeaseRoutes.Net.Domain.Direction
import LeaseRoutes.Net.Domain.Folding
import LeaseRoutes.Net.Domain.Joiner
import LeaseRoutes.Net.Punycode
import LeaseRoutes.Text.Composed
import LeaseRoutes.Text.Pieces
/-!
Domain names in ASCII. The characters of a name are folded and composed. A label with characters
beyond ASCII is then written with the mark `xn--`, and one that has the mark already must be such a
label.
-/

namespace LeaseRoutes.Domain

/-- Characters of ASCII that no domain name has. -/
def isForbidden (c : Char) : Bool :=
  c.toNat ≤ 0x20 || c.toNat = 0x7F ||
    ['#', '%', '/', ':', '<', '>', '?', '@', '[', '\\', ']', '^', '|'].contains c

/-- A label as it is read and as it is written. -/
structure Label where
  text : List Char
  ascii : List Char
  deriving DecidableEq, Repr

/-- Whether a label is what folding and composing leaves of it, begins with no mark and has its
joiners in place. -/
def isValid (label : List Char) : Bool :=
  (label.mapM fold?).map List.flatten == some label && Text.composed label == label &&
    !label.head?.any Text.isMark && joinersInPlace [] label

def isAscii (c : Char) : Bool := c.toNat < 0x80

def asciiMark : List Char := ['x', 'n', '-', '-']

/-- The most characters of a label that is written in ASCII. -/
def writtenLimit : Nat := 1000

/-- The most characters that may follow the mark of a label. -/
def readLimit : Nat := 2000

def Label.ofText? (cs : List Char) : Option Label :=
  if asciiMark.isPrefixOf cs then
    let digits := cs.drop asciiMark.length
    if digits.all isAscii && digits.length ≤ readLimit then
      match Punycode.decode digits with
      | some text => if text.all isAscii || !isValid text then none else some ⟨text, cs⟩
      | none => none
    else none
  else if cs.all isAscii then some ⟨cs, cs⟩
  else if cs.length ≤ writtenLimit && isValid cs then
    some ⟨cs, asciiMark ++ Punycode.encode cs⟩
  else none

/-- The name in ASCII, if it is one. -/
def toAscii? (cs : List Char) : Option (List Char) := do
  let name := Text.composed (← cs.mapM fold?).flatten
  if name.any isForbidden then none
  let labels ← (Text.pieces '.' name).mapM Label.ofText?
  let texts := labels.map Label.text
  if texts.any (·.any isLeftward) && !texts.all hasOneDirection then none
  return Text.join '.' (labels.map Label.ascii)

end LeaseRoutes.Domain
