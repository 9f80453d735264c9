/-!
# Punycode

A word of ASCII that stands for a word of any characters. It lists the word's ASCII characters and,
after the last hyphen, where each other one goes: numbers in base 36 whose digits end at a threshold
that adapts to the numbers before.
-/

namespace SymbolAtlas.Punycode

def digit? (c : Char) : Option Nat :=
  if c.isDigit then some (c.toNat - 22)
  else if c.isLower then some (c.toNat - 97)
  else if c.isUpper then some (c.toNat - 65)
  else none

/-- The first value that a digit at this place has if another follows. -/
def threshold (place bias : Nat) : Nat := min 26 (max 1 (place - bias))

/-- Divide until the number is small; `bias` counts the divisions. -/
def settle (delta bias : Nat) : Nat × Nat :=
  if 455 < delta then settle (delta / 35) (bias + 36) else (delta, bias)
  termination_by delta
  decreasing_by exact Nat.div_lt_self (by omega) (by omega)

/-- The bias after a number `delta`, at which the word has `size` characters. -/
def adapt (delta size : Nat) (first : Bool) : Nat :=
  let delta := if first then delta / 700 else delta / 2
  let (delta, bias) := settle (delta + delta / size) 0
  bias + 36 * delta / (delta + 38)

/-- A word half read, and the number half read. -/
structure State where
  word : List Char
  /-- The code point to insert next is this or a greater one. -/
  point : Nat := 128
  bias : Nat := 72
  /-- Where the next number starts, and how far its digits have come. -/
  start : Nat := 0
  index : Nat := 0
  place : Nat := 36
  weight : Nat := 1

namespace State

/-- The number is complete: insert its character. -/
def insert? (s : State) : Option State :=
  let size := s.word.length + 1
  let point := s.point + s.index / size
  if point.isValidChar then
    let position := s.index % size
    some
      { word := s.word.take position ++ Char.ofNat point :: s.word.drop position
        point := point
        bias := adapt (s.index - s.start) size (s.start = 0)
        start := position + 1
        index := position + 1 }
  else none

/-- Read a digit; weights beyond 32 bits are too great for any word. -/
def read? (s : State) (d : Nat) : Option State :=
  let s' := { s with index := s.index + d * s.weight }
  let t := threshold s.place s.bias
  let weight := s.weight * (36 - t)
  if d < t then s'.insert?
  else if weight < UInt32.size then some { s' with place := s.place + 36, weight := weight }
  else none

end State

/-- The word that `cs` stands for. -/
def decode? (cs : List Char) : Option (List Char) := do
  let tail := (cs.reverse.takeWhile (· ≠ '-')).reverse
  let basic := cs.take (cs.length - tail.length - 1)
  let numbers := if basic.isEmpty then cs else tail
  guard (basic.all fun c => c.toNat < 128)
  let s ← numbers.foldlM (fun s c => do s.read? (← digit? c)) { word := basic : State }
  if s.place = 36 then some s.word else none

end SymbolAtlas.Punycode
