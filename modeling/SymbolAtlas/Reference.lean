import SymbolAtlas.Location

/-!
# References

An occurrence of a symbol in the source, with the bits that say what kind of occurrence it is and,
where the index records it, the symbol that contains it.
-/

namespace SymbolAtlas

open Std

structure RefKind where
  bits : UInt32
  deriving DecidableEq, Repr, Inhabited

namespace RefKind

instance : Ord RefKind := ⟨compareOn bits⟩

instance : TransOrd RefKind := inferInstanceAs (TransCmp (compareOn bits))

instance : LawfulEqOrd RefKind where
  eq_of_compare {a b} h := by
    have h : compareOn bits a b = .eq := h
    simp only [compareOn, LawfulEqOrd.compare_eq_iff_eq] at h
    cases a; cases b; simp_all

def declaration : UInt32 := 1
def definition : UInt32 := 2
def reference : UInt32 := 4
def spelled : UInt32 := 8
def call : UInt32 := 16

/-- Every bit of `flag` is set. -/
def contains (k : RefKind) (flag : UInt32) : Bool := k.bits &&& flag = flag

/-- Declares or defines, and marks no use. -/
def declares (k : RefKind) : Bool :=
  k.bits &&& (declaration ||| definition) ≠ 0 && k.bits &&& (reference ||| call) = 0

/-- At least the call bit: formats without it have smaller kinds only. -/
def reachesCall (k : RefKind) : Bool := call ≤ k.bits

end RefKind

structure Reference where
  kind : RefKind
  location : Location
  /-- The enclosing symbol as the index gives it. -/
  containerId : Option String
  deriving DecidableEq, Repr, Inhabited

namespace Reference

/-- The id an index gives for "no enclosing symbol". -/
def nullContainer : String := "0000000000000000"

/-- The enclosing symbol, if there is one. -/
def container (r : Reference) : Option String :=
  r.containerId.filter fun id => id ≠ "" && id ≠ nullContainer

/-- By location, then kind, then container. -/
instance : Ord Reference :=
  ⟨compareLex (compareOn location) (compareLex (compareOn kind) (compareOn containerId))⟩

instance : TransOrd Reference :=
  inferInstanceAs (TransCmp (compareLex _ (compareLex _ _)))

instance : LawfulEqOrd Reference where
  eq_of_compare {a b} h := by
    have h : compareLex (compareOn location)
      (compareLex (compareOn kind) (compareOn containerId)) a b = .eq := h
    simp only [compareLex_eq_eq, compareOn, LawfulEqOrd.compare_eq_iff_eq] at h
    cases a; cases b; simp_all

end Reference

end SymbolAtlas
