import SymbolAtlas.KeySet

/-!
# Breadth-first search

Search in layers from a start: a layer holds what the steps out of the layer before it reach for the
first time. Steps carry labels, and what is reached carries the labels of the steps that led there.
-/

namespace SymbolAtlas

/-- What a search reached, in how many steps, and the labels of the steps that led there. -/
structure Reached (α : Type) where
  id : String
  distance : Nat
  trail : List α
  deriving DecidableEq, Repr

namespace Search

variable {α : Type}

/-- What was seen, and what of it belongs to the layer being found. -/
structure Progress (α : Type) where
  seen : KeySet String
  layer : List (Reached α)

/-- Take a step unless it leads to where the search has been. -/
def take (r : Reached α) (p : Progress α) (step : String × α) : Progress α :=
  if p.seen.contains step.1 then p
  else ⟨p.seen.insert step.1, p.layer ++ [⟨step.1, r.distance + 1, r.trail ++ [step.2]⟩]⟩

def expand (steps : String → List (String × α)) (p : Progress α) (r : Reached α) : Progress α :=
  (steps r.id).foldl (take r) p

/-- At most `depth` layers beyond `layer`. -/
def layers (steps : String → List (String × α)) : Nat → Progress α → List (Reached α)
  | 0, _ => []
  | depth + 1, p =>
    let next := p.layer.foldl (expand steps) ⟨p.seen, []⟩
    if next.layer.isEmpty then [] else next.layer ++ layers steps depth next

/-- Everything but the start that at most `depth` steps reach, nearest first. -/
def around (steps : String → List (String × α)) (start : String) (depth : Nat) : List (Reached α) :=
  layers steps depth ⟨.ofList [start], [⟨start, 0, []⟩]⟩

end Search

end SymbolAtlas
