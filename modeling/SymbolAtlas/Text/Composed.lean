import SymbolAtlas.Text.Composed.Pairs
import SymbolAtlas.Text.Marks

/-!
# Composed text

Marks and the letters of a Hangul syllable can be written as characters of their own, or as one
character with what they follow. In composed text each character stands as one with as much of what
follows as there is a character for, and marks that may change places are in the order of their
classes.
-/

namespace SymbolAtlas.Text

namespace Composed

/-! ## Two characters as one -/

/-- Neighbours in a list of even length. -/
def neighbours : List Char → List (Char × Char)
  | a :: b :: cs => (a, b) :: neighbours cs
  | _ => []

/-- A character, the mark that follows, and the two as one. -/
def triples : List (Char × Char × Char) :=
  pairsByMark.flatMap fun (mark, cs) =>
    (neighbours cs.toList).map fun (a, whole) => (a, Char.ofNat mark, whole)

/-- Where the Hangul letters begin, and how many count here: consonants that open a syllable,
vowels, and consonants that close one, the place before the first of which is for none. -/
structure Letters where
  first : Nat
  count : Nat

def openings : Letters := ⟨4352, 19⟩

def vowels : Letters := ⟨4449, 21⟩

def closings : Letters := ⟨4519, 28⟩

/-- The first of the syllables, which are in the order of their letters. -/
def syllable : Nat := 44032

def syllables : Nat := openings.count * vowels.count * closings.count

/-- The place of a character in `count` ones. -/
def place? (first count : Nat) (c : Char) : Option Nat :=
  if first ≤ c.toNat && c.toNat < first + count then some (c.toNat - first) else none

def Letters.place? (l : Letters) : Char → Option Nat := Composed.place? l.first l.count

/-- A Hangul syllable, or the start of one, with its next letter. -/
def joinHangul? (a b : Char) : Option Char :=
  match openings.place? a, vowels.place? b with
  | some o, some v => some (Char.ofNat (syllable + (o * vowels.count + v) * closings.count))
  | _, _ =>
    match place? syllable syllables a, closings.place? b with
    | some s, some c =>
      if s % closings.count = 0 && c ≠ 0 then some (Char.ofNat (a.toNat + c)) else none
    | _, _ => none

/-- A Hangul syllable without its last letter, and that letter. -/
def splitHangul? (c : Char) : Option (Char × Char) := do
  let s ← place? syllable syllables c
  let closing := s % closings.count
  if closing ≠ 0 then
    some (Char.ofNat (c.toNat - closing), Char.ofNat (closings.first + closing))
  else
    let s := s / closings.count
    some
      (Char.ofNat (openings.first + s / vowels.count), Char.ofNat (vowels.first + s % vowels.count))

/-- The character that two stand for. -/
def join? (a b : Char) : Option Char :=
  match triples.find? fun t => t.1 = a && t.2.1 = b with
  | some (_, _, whole) => some whole
  | none => joinHangul? a b

/-- The two characters that one stands for. -/
def split? (c : Char) : Option (Char × Char) :=
  match triples.find? fun t => t.2.2 = c with
  | some (a, b, _) => some (a, b)
  | none => splitHangul? c

/-! ## Taking apart and putting in order -/

/-- How often a character can be split. -/
def depth : Nat := 4

def spread : Nat → Char → List Char
  | 0, c => [c]
  | n + 1, c =>
    match split? c with
    | some (a, b) => spread n a ++ [b]
    | none => [c]

/-- A mark in front goes behind those of lower classes. -/
def settle (c : Char) : List Char → List Char
  | [] => [c]
  | d :: cs =>
    if 0 < combiningClass d && combiningClass d < combiningClass c then d :: settle c cs
    else c :: d :: cs

/-- Marks in the order of their classes. -/
def arrange (cs : List Char) : List Char := cs.foldr settle []

/-! ## Putting together -/

/-- Join what follows `base` to it; `kept` are the marks since, the last one first. A mark of the
same class before it keeps a mark from the base. -/
def gather (base : Char) (kept : List Char) : List Char → List Char
  | [] => base :: kept.reverse
  | c :: cs =>
    let free := kept.head?.all fun k => combiningClass k < combiningClass c
    match (if free then join? base c else none) with
    | some whole => gather whole kept cs
    | none =>
      if combiningClass c = 0 then base :: kept.reverse ++ gather c [] cs
      else gather base (c :: kept) cs

def joinAll : List Char → List Char
  | [] => []
  | c :: cs => if combiningClass c = 0 then gather c [] cs else c :: joinAll cs

end Composed

open Composed in
/-- Composed text; of characters that are other characters themselves, only those that stand for two
are known here. -/
def compose (cs : List Char) : List Char := joinAll (arrange (cs.flatMap (spread depth)))

end SymbolAtlas.Text
