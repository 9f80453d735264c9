import SymbolAtlas.Span

/-!
# Lexical nesting

When a region lies properly inside another. Equal bodies do not nest, and a body of one line holds
only bare names: anything else on that line is a sibling.
-/

namespace SymbolAtlas

/-- `inner` lies properly inside `outer`; `bare` says that it belongs to a bare name. -/
def Range.within (inner outer : Range) (bare : Bool) : Bool :=
  inner ≠ outer && (bare || !outer.singleLine) && outer.encloses inner

/-- The body of `inner` lies properly inside that of `outer`. -/
def Span.within (inner outer : Span) : Bool := inner.body.within outer.body inner.isBare

theorem Range.encloses_of_within {inner outer : Range} {bare : Bool}
    (h : inner.within outer bare = true) : outer.encloses inner = true := by
  simp only [within, Bool.and_eq_true] at h
  exact h.2

theorem Range.ne_of_within {inner outer : Range} {bare : Bool}
    (h : inner.within outer bare = true) : inner ≠ outer := by
  simp only [within, Bool.and_eq_true, decide_eq_true_eq] at h
  exact h.1.1

end SymbolAtlas
