import SymbolAtlas.Span
import SymbolAtlas.Total

/-!
# Output of parse workers

What one worker hands back: the spans it saw in each file and which file includes which. Outputs
are merged before anything else is done with them; a span that both hold is kept once.
-/

namespace SymbolAtlas

open Std

structure Inclusion where
  including : String
  included : String
  deriving DecidableEq, Repr

namespace Inclusion

instance : Ord Inclusion := ⟨compareLex (compareOn including) (compareOn included)⟩

instance : TransOrd Inclusion := inferInstanceAs (TransCmp (compareLex _ _))

instance : LawfulEqOrd Inclusion where
  eq_of_compare {a b} h := by
    have h : compareLex (compareOn including) (compareOn included) a b = .eq := h
    simp only [compareLex_eq_eq, compareOn, LawfulEqOrd.compare_eq_iff_eq] at h
    cases a; cases b; simp_all

end Inclusion

structure ParseOutput where
  spans : SpanTable := ∅
  includes : KeySet Inclusion := ∅
  deriving DecidableEq, Inhabited

namespace ParseOutput

instance : EmptyCollection ParseOutput := ⟨{}⟩

def addSpan (o : ParseOutput) (file : String) (s : Span) : ParseOutput :=
  { o with spans := o.spans.insert file ((o.spans.getD file ∅).insertNew s) }

def addInclude (o : ParseOutput) (i : Inclusion) : ParseOutput :=
  { o with includes := o.includes.insert i }

def spanCount (o : ParseOutput) : Nat := total (o.spans.values.map SpanSet.size)

/-- The spans of another table, after one's own. -/
def addSpans (spans other : SpanTable) : SpanTable :=
  other.entries.foldl (fun t e => t.insert e.1 ((t.getD e.1 ∅).union e.2)) spans

def merge (o other : ParseOutput) : ParseOutput where
  spans := addSpans o.spans other.spans
  includes := o.includes.union other.includes

/-- The ids of the spans of each file. -/
def spanIds (o : ParseOutput) : Table String (List String) := o.spans.map SpanSet.ids

/-- The same files with the same span ids, and the same inclusions. -/
def sameSpans (a b : ParseOutput) : Bool := a.spanIds = b.spanIds && a.includes = b.includes

end ParseOutput

end SymbolAtlas
