import SymbolAtlas.Path.Host.Characters
import SymbolAtlas.Text.Composed
import SymbolAtlas.Text.Direction
import SymbolAtlas.Text.Joining
import SymbolAtlas.Text.Punycode

/-!
# Labels of host names

A name is a list of labels. A label beyond ASCII is written out in full, or in ASCII after `xn--`.
-/

namespace SymbolAtlas.Host

open Text (Direction)

def isAscii (cs : List Char) : Bool := cs.all (·.toNat < 128)

/-- The longest label beyond ASCII, in characters. -/
def longest : Nat := 1000

/-- The longest label in ASCII that stands for another, without its `xn--`. -/
def longestCode : Nat := 2000

/-- A label written out in full: a mark has something to combine with, and joiners have a use. -/
def isLabel (cs : List Char) : Bool :=
  !(cs.head?.any Text.isMark) && Text.joinersHold [] cs && (isAscii cs || cs.length ≤ longest)

/-- The label written out in full. What is in ASCII after `xn--` needs to be, and has no characters
that stand for others. -/
def label? : List Char → Option (List Char)
  | 'x' :: 'n' :: '-' :: '-' :: code => do
    guard (code.length ≤ longestCode)
    let cs ← Punycode.decode? code
    guard (!isAscii cs && cs.all isSettled && Text.compose cs = cs && isLabel cs)
    some cs
  | cs => do
    guard (isLabel cs)
    some cs

/-- Each label runs one way if some text runs from right to left. -/
def runsOneWay (labels : List (List Char)) : Bool :=
  let directions := labels.map (·.map Direction.ofChar)
  !(directions.any Direction.isMixed) || directions.all Direction.runsOneWay

/-- The characters are those of a name, with dots between its labels. -/
def isName (cs : List Char) : Bool :=
  !(cs.any isDenied) && ((cs.splitOn '.').mapM label?).any runsOneWay

end SymbolAtlas.Host
