import SymbolAtlas.Reference

/-!
# Relationships

The kinds of edges between symbols, in a fixed order, and the weight of each in a ranking.
-/

namespace SymbolAtlas

open Std

inductive Relationship where
  | calls
  /-- The source encloses the target. -/
  | contains
  /-- The source is the namespace that declares the target. -/
  | scopeContains
  /-- The source derives from the target. -/
  | inherits
  /-- The source is overridden by the target. -/
  | overrides
  /-- The source names the target. -/
  | aliasOf
  deriving DecidableEq, Repr, Inhabited

namespace Relationship

def all : List Relationship := [calls, contains, scopeContains, inherits, overrides, aliasOf]

def text : Relationship → String
  | calls => "Calls"
  | contains => "Contains"
  | scopeContains => "ScopeContains"
  | inherits => "Inherits"
  | overrides => "Overrides"
  | aliasOf => "AliasOf"

def rank : Relationship → Nat
  | calls => 0
  | contains => 1
  | scopeContains => 2
  | inherits => 3
  | overrides => 4
  | aliasOf => 5

theorem rank_injective {a b : Relationship} (h : a.rank = b.rank) : a = b := by
  cases a <;> cases b <;> simp_all [rank]

instance : Ord Relationship := ⟨compareOn rank⟩

instance : TransOrd Relationship := inferInstanceAs (TransCmp (compareOn rank))

instance : LawfulEqOrd Relationship where
  eq_of_compare {a b} h := by
    have h : compareOn rank a b = .eq := h
    simp only [compareOn, LawfulEqOrd.compare_eq_iff_eq] at h
    exact rank_injective h

def weight : Relationship → Float32
  | calls => 1.0
  | contains => 0.7
  | scopeContains => 0.3
  | inherits => 0.6
  | overrides => 0.6
  | aliasOf => 0.5

end Relationship

end SymbolAtlas
