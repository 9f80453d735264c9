import SymbolAtlas.Nesting

/-!
# The order of nesting

Enclosing is a partial order on ranges, whether or not they end after they start. `Surrounds` is its
strict part; a body within another is surrounded by it. Among ranges that start before they end,
lying within is transitive (`Range.within_trans`, `Span.within_trans`), and a range inside another
covers no more than that one (`extent_lt_or_eq`). `Position.toNat` turns questions about places into
questions about numbers.
-/

namespace SymbolAtlas

open Std

/-! ## Pairs of words -/

section Words
variable {x x' y y' : UInt32}

theorem words_inj : x.toNat * UInt32.size + x'.toNat = y.toNat * UInt32.size + y'.toNat ↔
    x = y ∧ x' = y' := by
  have hx := x'.toNat_lt_size
  have hy := y'.toNat_lt_size
  rw [← UInt32.toNat_inj, ← UInt32.toNat_inj]
  unfold UInt32.size at *
  omega

/-- Pairs of words are ordered as the numbers they make. -/
theorem compare_words_eq_lt_iff : (compare x y).then (compare x' y') = .lt ↔
    x.toNat * UInt32.size + x'.toNat < y.toNat * UInt32.size + y'.toNat := by
  have hword : ∀ x y : UInt32, compare x y = .lt ↔ x.toNat < y.toNat := fun x y =>
    compareOfLessAndEq_eq_lt.trans UInt32.lt_iff_toNat_lt
  have hx := x'.toNat_lt_size
  have hy := y'.toNat_lt_size
  rw [Ordering.then_eq_lt, hword, hword, LawfulEqOrd.compare_eq_iff_eq, ← UInt32.toNat_inj]
  unfold UInt32.size at *
  omega

end Words

/-! ## Positions -/

namespace Position

variable {a b : Position}

/-- Where the position stands among all positions. -/
def toNat (p : Position) : Nat := p.line.toNat * UInt32.size + p.column.toNat

theorem toNat_inj : a.toNat = b.toNat ↔ a = b := by
  cases a
  cases b
  rw [toNat, toNat, words_inj, mk.injEq]

theorem compare_eq_lt_iff : compare a b = .lt ↔ a.toNat < b.toNat := compare_words_eq_lt_iff

theorem isLE_compare_iff : (compare a b).isLE = true ↔ a.toNat ≤ b.toNat := by
  have hgt : compare a b = .gt ↔ b.toNat < a.toNat :=
    OrientedCmp.gt_iff_lt.trans compare_eq_lt_iff
  rw [Ordering.isLE_iff_ne_gt, hgt, Nat.not_lt]

theorem toNat_lt (p : Position) : p.toNat < UInt32.size * UInt32.size := by
  have hline := p.line.toNat_lt_size
  have hcolumn := p.column.toNat_lt_size
  unfold toNat UInt32.size at *
  omega

end Position

/-! ## Ranges -/

namespace Range

variable {a b d : Range}

/-- `outer` encloses `inner` and is another range. -/
def Surrounds (outer inner : Range) : Prop := outer.encloses inner = true ∧ outer ≠ inner

theorem encloses_iff : a.encloses b = true ↔
    (compare a.start b.start).isLE = true ∧ (compare b.stop a.stop).isLE = true := by
  rw [encloses, Bool.and_eq_true, decide_eq_true_eq, decide_eq_true_eq, Ordering.isLE_iff_ne_gt,
    Ordering.isLE_iff_ne_gt]

theorem encloses_iff_toNat : a.encloses b = true ↔
    a.start.toNat ≤ b.start.toNat ∧ b.stop.toNat ≤ a.stop.toNat := by
  rw [encloses_iff, Position.isLE_compare_iff, Position.isLE_compare_iff]

theorem ordered_iff : a.Ordered ↔ a.start.toNat ≤ a.stop.toNat := by
  rw [Ordered, ← Position.isLE_compare_iff, Ordering.isLE_iff_ne_gt]

theorem eq_iff_toNat : a = b ↔ a.start.toNat = b.start.toNat ∧ a.stop.toNat = b.stop.toNat := by
  rw [Position.toNat_inj, Position.toNat_inj]
  cases a
  cases b
  exact Range.mk.injEq .. ▸ Iff.rfl

theorem encloses_trans (h : a.encloses b = true) (h' : b.encloses d = true) :
    a.encloses d = true := by
  rw [encloses_iff] at *
  exact ⟨TransCmp.isLE_trans h.1 h'.1, TransCmp.isLE_trans h'.2 h.2⟩

theorem encloses_antisymm (h : a.encloses b = true) (h' : b.encloses a = true) : a = b := by
  rw [encloses_iff] at *
  have hstart := LawfulEqCmp.eq_of_compare (OrientedCmp.isLE_antisymm h.1 h'.1)
  have hstop := LawfulEqCmp.eq_of_compare (OrientedCmp.isLE_antisymm h'.2 h.2)
  exact congr (congrArg Range.mk hstart) hstop

theorem Surrounds.trans_encloses (h : a.Surrounds b) (h' : b.encloses d = true) :
    a.Surrounds d := by
  refine ⟨encloses_trans h.1 h', ?_⟩
  rintro rfl
  exact h.2 (encloses_antisymm h.1 h')

theorem Surrounds.trans (h : a.Surrounds b) (h' : b.Surrounds d) : a.Surrounds d :=
  h.trans_encloses h'.1

theorem surrounds_of_within {bare : Bool} (h : b.within a bare = true) : a.Surrounds b :=
  ⟨encloses_of_within h, (ne_of_within h).symm⟩

/-- How much a range covers, counted so that also ranges that end before they start have less the
further in they lie. -/
def breadth (r : Range) : Nat := r.stop.toNat + (UInt32.size * UInt32.size - r.start.toNat)

theorem Surrounds.breadth_lt (h : a.Surrounds b) : b.breadth < a.breadth := by
  obtain ⟨he, hne⟩ := h
  have hstart := b.start.toNat_lt
  rw [encloses_iff_toNat] at he
  rw [ne_eq, eq_iff_toNat] at hne
  unfold breadth
  omega

theorem startLine_le_of_encloses (h : a.encloses b = true) : a.start.line ≤ b.start.line := by
  have hcolumn := b.start.column.toNat_lt_size
  have hstart := (encloses_iff_toNat.1 h).1
  rw [UInt32.le_iff_toNat_le]
  unfold Position.toNat UInt32.size at *
  omega

/-! ## Ranges of one line -/

theorem within_iff {bare : Bool} : b.within a bare = true ↔
    a.Surrounds b ∧ (a.singleLine = true → bare = true) := by
  rw [within, Surrounds, Bool.and_eq_true, Bool.and_eq_true, decide_eq_true_eq, ne_comm]
  cases bare <;> cases a.singleLine <;> simp [and_comm]

/-- A range that starts before it ends has one line if what encloses it has one. -/
theorem singleLine_of_encloses (h : a.singleLine = true) (he : a.encloses b = true)
    (hb : b.Ordered) : b.singleLine = true := by
  have hcolumn : ∀ p : Position, p.column.toNat < UInt32.size := fun p => p.column.toNat_lt_size
  have hstart := hcolumn a.start
  have hstop := hcolumn a.stop
  have hstart' := hcolumn b.start
  have hstop' := hcolumn b.stop
  rw [encloses_iff_toNat] at he
  rw [ordered_iff] at hb
  rw [singleLine, decide_eq_true_eq, ← UInt32.toNat_inj] at *
  unfold Position.toNat UInt32.size at *
  omega

theorem within_trans {bare bare' : Bool} (hd : d.within b bare = true)
    (hb : b.within a bare' = true) (ho : b.Ordered) : d.within a bare = true := by
  rw [within_iff] at *
  refine ⟨hb.1.trans hd.1, fun hline => ?_⟩
  exact hd.2 (singleLine_of_encloses hline hb.1.1 ho)

/-! ## Extents -/

namespace Extent

variable {a b : Extent}

/-- Where the extent stands among all extents. -/
def toNat (e : Extent) : Nat := e.lines.toNat * UInt32.size + e.columns.toNat

theorem toNat_inj : a.toNat = b.toNat ↔ a = b := by
  cases a
  cases b
  rw [toNat, toNat, words_inj, mk.injEq]

theorem compare_eq_lt_iff : compare a b = .lt ↔ a.toNat < b.toNat := compare_words_eq_lt_iff

end Extent

theorem toNat_extent (r : Range) : r.extent.toNat =
    (r.stop.line.toNat - r.start.line.toNat) * UInt32.size +
      if r.stop.line.toNat ≤ r.start.line.toNat then r.stop.column.toNat - r.start.column.toNat
      else r.stop.column.toNat := by
  have hline : monus r.stop.line r.start.line = 0 ↔
      r.stop.line.toNat ≤ r.start.line.toNat := by
    rw [← UInt32.toNat_inj, toNat_monus]
    exact Nat.sub_eq_zero_iff_le
  rw [extent, Extent.toNat, toNat_monus]
  simp only [hline]
  split
  · rw [toNat_monus]
  · rfl

/-- A range inside another covers less. It may cover as much only where the other one has several
lines, and then it starts before that one ends. -/
theorem extent_lt_or_eq (h : a.Surrounds b) (hb : b.Ordered) :
    b.extent.toNat < a.extent.toNat ∨ b.extent = a.extent ∧ ¬a.singleLine = true ∧
      b.start.toNat < a.stop.toNat := by
  have hcolumn : ∀ p : Position, p.column.toNat < UInt32.size := fun p => p.column.toNat_lt_size
  have hstart := hcolumn a.start
  have hstop := hcolumn a.stop
  have hstart' := hcolumn b.start
  have hstop' := hcolumn b.stop
  obtain ⟨he, hne⟩ := h
  rw [encloses_iff_toNat] at he
  rw [ordered_iff] at hb
  rw [ne_eq, eq_iff_toNat] at hne
  rw [← Extent.toNat_inj, toNat_extent, toNat_extent, singleLine, decide_eq_true_eq,
    ← UInt32.toNat_inj]
  unfold Position.toNat UInt32.size at *
  split <;> split <;> omega

end Range

/-! ## Spans -/

namespace Span

variable {a b d : Span}

theorem not_within_self (a : Span) : ¬a.within a = true := fun h => Range.ne_of_within h rfl

theorem within_asymm (h : a.within b = true) : ¬b.within a = true := fun h' =>
  Range.ne_of_within h
    (Range.encloses_antisymm (Range.encloses_of_within h') (Range.encloses_of_within h))

/-- Lying within is transitive as long as the span in the middle does not end before it starts. -/
theorem within_trans (h : a.within b = true) (h' : b.within d = true) (ho : b.body.Ordered) :
    a.within d = true :=
  Range.within_trans h h' ho

/-- A field that ends before it starts is a bare name and so lies on one line, but it holds a function
that the line does not hold. -/
example :
    let function : Span := ⟨"f", "Function", "C", .lines 5 5, .lines 5 1, "a", none⟩
    let field : Span := ⟨"x", "Field", "C", .lines 4 4, .lines 4 2, "b", none⟩
    let line : Span := ⟨"s", "Struct", "C", .lines 3 3, ⟨⟨3, 0⟩, ⟨3, 40⟩⟩, "c", none⟩
    function.within field = true ∧ field.within line = true ∧ function.within line = false := by
  decide

end Span

end SymbolAtlas
