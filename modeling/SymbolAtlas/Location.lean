/-!
# Source coordinates

Positions are zero-based (line, column) pairs in lexicographic order. A `Range` is a stretch of one
file, a `Location` a range together with its file. Ranges order by start and then by end.
-/

namespace SymbolAtlas

open Std

structure Position where
  line : UInt32
  column : UInt32
  deriving DecidableEq, Repr, Inhabited

namespace Position

instance : Ord Position := ⟨compareLex (compareOn line) (compareOn column)⟩

instance : TransOrd Position := inferInstanceAs (TransCmp (compareLex _ _))

instance : LawfulEqOrd Position where
  eq_of_compare {a b} h := by
    have h : compareLex (compareOn line) (compareOn column) a b = .eq := h
    simp only [compareLex_eq_eq, compareOn, LawfulEqOrd.compare_eq_iff_eq] at h
    cases a; cases b; simp_all

end Position

/-- A stretch of a file. -/
structure Range where
  start : Position
  stop : Position
  deriving DecidableEq, Repr, Inhabited

namespace Range

instance : Ord Range := ⟨compareLex (compareOn start) (compareOn stop)⟩

instance : TransOrd Range := inferInstanceAs (TransCmp (compareLex _ _))

instance : LawfulEqOrd Range where
  eq_of_compare {a b} h := by
    have h : compareLex (compareOn start) (compareOn stop) a b = .eq := h
    simp only [compareLex_eq_eq, compareOn, LawfulEqOrd.compare_eq_iff_eq] at h
    cases a; cases b; simp_all

/-- The empty range at a position. -/
def point (p : Position) : Range := ⟨p, p⟩

/-- Whole lines, from the start of one to the start of another. -/
def lines (first last : UInt32) : Range := ⟨⟨first, 0⟩, ⟨last, 0⟩⟩

def singleLine (r : Range) : Bool := r.start.line = r.stop.line

def zeroWidth (r : Range) : Bool := r.start = r.stop

/-- `inner` neither starts before `r` nor ends after it. Every range encloses itself. -/
def encloses (r inner : Range) : Bool :=
  compare r.start inner.start ≠ .gt && compare inner.stop r.stop ≠ .gt

/-- The start does not come after the end. -/
def Ordered (r : Range) : Prop := compare r.start r.stop ≠ .gt

instance (r : Range) : Decidable r.Ordered := inferInstanceAs (Decidable (_ ≠ _))

/-- Lines and columns covered, compared in this order; zero for a range that ends before it starts. -/
structure Extent where
  lines : UInt32
  columns : UInt32
  deriving DecidableEq, Repr

namespace Extent

instance : Ord Extent := ⟨compareLex (compareOn lines) (compareOn columns)⟩

instance : TransOrd Extent := inferInstanceAs (TransCmp (compareLex _ _))

instance : LawfulEqOrd Extent where
  eq_of_compare {a b} h := by
    have h : compareLex (compareOn lines) (compareOn columns) a b = .eq := h
    simp only [compareLex_eq_eq, compareOn, LawfulEqOrd.compare_eq_iff_eq] at h
    cases a; cases b; simp_all

end Extent

/-- The difference, or zero where it would be negative. -/
def monus (a b : UInt32) : UInt32 := if b ≤ a then a - b else 0

theorem toNat_monus (a b : UInt32) : (monus a b).toNat = a.toNat - b.toNat := by
  unfold monus
  split
  · next h => exact UInt32.toNat_sub_of_le _ _ h
  · next h =>
    have := UInt32.not_le.1 h
    rw [UInt32.lt_iff_toNat_lt] at this
    simp
    omega

/-- Beyond one line the end column stands for the columns. -/
def extent (r : Range) : Extent :=
  let lines := monus r.stop.line r.start.line
  ⟨lines, if lines = 0 then monus r.stop.column r.start.column else r.stop.column⟩

/-- Lines touched, at least one. -/
def lineCount (r : Range) : Nat := (monus r.stop.line r.start.line).toNat + 1

end Range

structure Location where
  file : String
  range : Range
  deriving DecidableEq, Repr, Inhabited

namespace Location

instance : Ord Location := ⟨compareLex (compareOn file) (compareOn range)⟩

instance : TransOrd Location := inferInstanceAs (TransCmp (compareLex _ _))

instance : LawfulEqOrd Location where
  eq_of_compare {a b} h := by
    have h : compareLex (compareOn file) (compareOn range) a b = .eq := h
    simp only [compareLex_eq_eq, compareOn, LawfulEqOrd.compare_eq_iff_eq] at h
    cases a; cases b; simp_all

def start (l : Location) : Position := l.range.start

def stop (l : Location) : Position := l.range.stop

end Location

end SymbolAtlas
