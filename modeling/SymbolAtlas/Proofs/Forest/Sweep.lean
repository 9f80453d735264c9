import Mathlib.Data.List.Induction
import SymbolAtlas.Proofs.Forest
import SymbolAtlas.Proofs.Nesting
import SymbolAtlas.Proofs.Order
import SymbolAtlas.Proofs.Span

/-!
# One sweep with a stack of open spans

Read from front to back, a forest is one sweep over its spans in source order
(`spans_grow_eq_sweep`). A stack holds the spans that are still open: each span closes those on top
that it does not lie within, hangs from the one that is left on top, and is open from then on; its
depth is the number of those that are left (`walkAll_grow`). Where bodies start before they end,
open spans lie within each other, so a span is open as long as all that came after it lies within it
(`mem_stackAfter`). `parent_build` says from this which span another one hangs from, without a stack.
-/

namespace SymbolAtlas

open Std

/-! ## Source order -/

namespace Span

/-- By start, of one start the later end first, and of one body by id. -/
def sourceCmp : Span → Span → Ordering :=
  compareLex (compareOn (·.body.start))
    (compareLex (fun a b => compare b.body.stop a.body.stop) (compareOn (·.id)))

instance : TransCmp sourceCmp :=
  have : TransCmp fun a b : Span => compare b.body.stop a.body.stop :=
    @TransCmp.opposite _ (compareOn fun s : Span => s.body.stop) _
  inferInstanceAs (TransCmp (compareLex _ (compareLex _ _)))

/-- The span comes first in source order. -/
def Before (a b : Span) : Prop := sourceCmp a b = .lt

variable {a b d : Span}

instance : Decidable (a.Before b) := inferInstanceAs (Decidable (_ = _))

theorem before_iff : a.Before b ↔ a.body.start.toNat < b.body.start.toNat ∨
    a.body.start.toNat = b.body.start.toNat ∧ (b.body.stop.toNat < a.body.stop.toNat ∨
      a.body.stop.toNat = b.body.stop.toNat ∧ compare a.id b.id = .lt) := by
  have hlex : sourceCmp a b = (compare a.body.start b.body.start).then
      ((compare b.body.stop a.body.stop).then (compare a.id b.id)) := rfl
  rw [Before, hlex, Ordering.then_eq_lt, Ordering.then_eq_lt, Position.compare_eq_lt_iff,
    Position.compare_eq_lt_iff, LawfulEqOrd.compare_eq_iff_eq, LawfulEqOrd.compare_eq_iff_eq,
    ← Position.toNat_inj, ← Position.toNat_inj, @eq_comm _ b.body.stop.toNat]

theorem Before.trans (h : a.Before b) (h' : b.Before d) : a.Before d := TransCmp.lt_trans h h'

theorem not_before_self (a : Span) : ¬a.Before a := by
  have hself : sourceCmp a a = .eq := ReflCmp.compare_self
  rw [Before, hself]
  exact nofun

theorem Before.asymm (h : a.Before b) : ¬b.Before a := fun h' => not_before_self a (h.trans h')

theorem start_le_of_before (h : a.Before b) : a.body.start.toNat ≤ b.body.start.toNat := by
  rw [before_iff] at h
  omega

theorem before_of_surrounds (h : b.body.Surrounds a.body) : b.Before a := by
  obtain ⟨he, hne⟩ := h
  rw [Range.encloses_iff_toNat] at he
  rw [ne_eq, Range.eq_iff_toNat] at hne
  rw [before_iff]
  omega

/-- What a span lies within comes before it. -/
theorem before_of_within (h : a.within b = true) : b.Before a :=
  before_of_surrounds (Range.surrounds_of_within h)

end Span

/-! ## The spans in source order -/

namespace FileForest

theorem sourceOrder_iff {a b : Span} : sourceOrder a b = true ↔
    a.body.start.toNat < b.body.start.toNat ∨
      a.body.start.toNat = b.body.start.toNat ∧ b.body.stop.toNat ≤ a.body.stop.toNat := by
  rw [sourceOrder, decide_eq_true_eq, ne_eq, ← Ordering.isLE_iff_ne_gt, Ordering.isLE_then_iff_or,
    Position.compare_eq_lt_iff, Position.isLE_compare_iff, LawfulEqOrd.compare_eq_iff_eq,
    ← Position.toNat_inj]

theorem sourceOrder_trans (a b d : Span) (h : sourceOrder a b = true)
    (h' : sourceOrder b d = true) : sourceOrder a d = true := by
  rw [sourceOrder_iff] at *
  omega

theorem sourceOrder_total (a b : Span) : (sourceOrder a b || sourceOrder b a) = true := by
  rw [Bool.or_eq_true, sourceOrder_iff, sourceOrder_iff]
  omega

/-- The spans of a set in source order; where it leaves two equal, they stay in id order. -/
theorem pairwise_before (set : SpanSet) :
    (set.toList.mergeSort sourceOrder).Pairwise Span.Before := by
  refine (pairwise_mergeSort_of_pairwise sourceOrder_trans sourceOrder_total set.pairwise_id).imp ?_
  intro a b ⟨hle, hid⟩
  rw [sourceOrder_iff] at hle hid
  rw [Span.before_iff]
  grind

end FileForest

/-! ## The sweep -/

/-- The span as it hangs from a holder. -/
def Span.hang (s : Span) (holder : Option Span) : Span :=
  { s with parentId := holder.map (·.id) }

namespace FileForest

/-- What stays open when `s` comes. -/
def openAt (s : Span) (stack : List Span) : List Span := stack.dropWhile fun t => !s.within t

/-- The stack when `s` has come. -/
def push (stack : List Span) (s : Span) : List Span := s :: openAt s stack

/-- Hang the spans of a list one after the other. -/
def sweep : List Span → List Span → List Span
  | _, [] => []
  | stack, s :: l => s.hang (openAt s stack).head? :: sweep (push stack s) l

theorem openAt_cons_of_within {s t : Span} (h : s.within t = true) (stack : List Span) :
    openAt s (t :: stack) = t :: stack := by
  simp [openAt, h]

theorem openAt_cons_of_not_within {s t : Span} (h : ¬s.within t = true) (stack : List Span) :
    openAt s (t :: stack) = openAt s stack := by
  simp [openAt, h]

/-- The sweep with depths: how many spans stay open when a span comes. -/
def trail : List Span → List Span → List (Nat × Span)
  | _, [] => []
  | stack, s :: l =>
    ((openAt s stack).length, s.hang (openAt s stack).head?) :: trail (push stack s) l

theorem map_trail (l : List Span) : ∀ stack, (trail stack l).map (·.2) = sweep stack l := by
  induction l with
  | nil => exact fun _ => rfl
  | cons s l ih => exact fun stack => congrArg (_ :: ·) (ih (push stack s))

/-- What is taken under a span is what the sweep passes over while that span is open, and the trees
it is taken into stand one level below it. -/
theorem trail_under (outer : Span) (l : List Span) : ∀ stack : List Span,
    trail (outer :: stack) l =
      SpanTree.walkAll (stack.length + 1) (under outer l).1 ++ trail stack (under outer l).2.1 := by
  fun_induction under outer l with
  | case1 outer => exact fun stack => rfl
  | case2 outer s l hin children rest h heq siblings rest' h' heq' ih ih' =>
    intro stack
    rw [heq] at ih
    rw [heq'] at ih'
    rw [trail, push, openAt_cons_of_within hin, ih, ih', SpanTree.walkAll, SpanTree.walk,
      List.cons_append, List.cons_append, List.append_assoc]
    rfl
  | case3 outer s l hout =>
    intro stack
    have hopen := openAt_cons_of_not_within hout stack
    simp only [trail, push, hopen]
    rfl

/-- The depth of a span in its forest is the number of spans that stay open when it comes. -/
theorem walkAll_grow (l : List Span) : SpanTree.walkAll 0 (grow l) = trail [] l := by
  fun_induction grow l with
  | case1 => rfl
  | case2 s l children rest h heq ih =>
    have hu := trail_under s l []
    rw [heq] at hu
    rw [SpanTree.walkAll, SpanTree.walk, ih, trail, push, List.cons_append]
    exact congrArg (_ :: ·) hu.symm

theorem spans_grow_eq_sweep (l : List Span) : spans (grow l) = sweep [] l := by
  rw [spans, walkAll_grow, map_trail]

/-! ## What is open -/

/-- The spans that are open after a list. -/
def stackAfter (l : List Span) : List Span := l.foldl push []

theorem stackAfter_append_singleton (l : List Span) (s : Span) :
    stackAfter (l ++ [s]) = s :: openAt s (stackAfter l) := by
  rw [stackAfter, List.foldl_append]
  rfl

/-- Every span of the sweep hangs from the top of what stays open when it comes. -/
theorem exists_of_mem_trail {d : Nat × Span} (l : List Span) : ∀ stack, d ∈ trail stack l →
    ∃ front s back, l = front ++ s :: back ∧ d.1 = (openAt s (front.foldl push stack)).length ∧
      d.2 = s.hang (openAt s (front.foldl push stack)).head? := by
  induction l with
  | nil => exact fun _ h => absurd h List.not_mem_nil
  | cons s l ih =>
    intro stack h
    rcases List.mem_cons.1 h with rfl | h
    · exact ⟨[], s, l, rfl, rfl, rfl⟩
    · obtain ⟨front, t, back, rfl, hdepth, hspan⟩ := ih _ h
      exact ⟨s :: front, t, back, rfl, hdepth, hspan⟩

/-- Each span of the stack lies within those below it. -/
structure Nested (stack : List Span) : Prop where
  ordered : ∀ t ∈ stack, t.body.Ordered
  within : stack.Pairwise fun t u => t.within u = true

/-- In a nested stack a span closes what it does not lie within, on top or not. -/
theorem Nested.openAt_eq {stack : List Span} (h : Nested stack) (s : Span) :
    openAt s stack = stack.filter fun t => s.within t := by
  induction stack with
  | nil => rfl
  | cons t stack ih =>
    obtain ⟨hlow, hwithin⟩ := List.pairwise_cons.1 h.within
    have hrest : Nested stack := ⟨fun u hu => h.ordered u (List.mem_cons_of_mem _ hu), hwithin⟩
    by_cases hs : s.within t = true
    · have hall : ∀ u ∈ stack, s.within u = true := fun u hu =>
        Span.within_trans hs (hlow u hu) (h.ordered t (List.mem_cons_self ..))
      rw [openAt_cons_of_within hs, List.filter_cons_of_pos hs, List.filter_eq_self.2 hall]
    · rw [openAt_cons_of_not_within hs, List.filter_cons_of_neg hs, ih hrest]

theorem nested_stackAfter {l : List Span} (ho : ∀ a ∈ l, a.body.Ordered) :
    Nested (stackAfter l) := by
  induction l using List.reverseRecOn with
  | nil => exact ⟨fun t ht => absurd ht List.not_mem_nil, .nil⟩
  | append_singleton l s ih =>
    have hl := ih fun a ha => ho a (List.mem_append_left _ ha)
    have hs : s.body.Ordered := ho s (by simp)
    rw [stackAfter_append_singleton, hl.openAt_eq]
    refine ⟨fun t ht => ?_, List.pairwise_cons.2 ⟨fun t ht => ?_, hl.within.filter _⟩⟩
    · rcases List.mem_cons.1 ht with rfl | ht
      · exact hs
      · exact hl.ordered t (List.mem_of_mem_filter ht)
    · exact (List.mem_filter.1 ht).2

/-- A span is open as long as everything that came after it lies within it. -/
theorem mem_stackAfter {l : List Span} {t : Span} (ho : ∀ a ∈ l, a.body.Ordered)
    (hl : l.Pairwise Span.Before) :
    t ∈ stackAfter l ↔ t ∈ l ∧ ∀ d ∈ l, t.Before d → d.within t = true := by
  induction l using List.reverseRecOn with
  | nil => simp [stackAfter]
  | append_singleton l s ih =>
    obtain ⟨hpl, -, hlast⟩ := List.pairwise_append.1 hl
    have hbefore : ∀ a ∈ l, a.Before s := fun a ha => hlast a ha s (by simp)
    have hol : ∀ a ∈ l, a.body.Ordered := fun a ha => ho a (List.mem_append_left _ ha)
    rw [stackAfter_append_singleton, (nested_stackAfter hol).openAt_eq, List.mem_cons,
      List.mem_filter, ih hol hpl]
    simp only [List.mem_append, List.mem_singleton]
    refine ⟨?_, ?_⟩
    · rintro (rfl | ⟨⟨ht, hin⟩, hs⟩)
      · refine ⟨.inr rfl, fun d hd hlt => ?_⟩
        rcases hd with hd | rfl
        · exact absurd hlt (hbefore d hd).asymm
        · exact absurd hlt (Span.not_before_self d)
      · refine ⟨.inl ht, fun d hd hlt => ?_⟩
        rcases hd with hd | rfl
        · exact hin d hd hlt
        · exact hs
    · rintro ⟨ht | rfl, hin⟩
      · exact .inr ⟨⟨ht, fun d hd => hin d (.inl hd)⟩, hin s (.inr rfl) (hbefore t ht)⟩
      · exact .inl rfl

end FileForest

/-! ## Parents -/

/-- `t` is around `s`, and everything that comes between them in source order lies within `t`. -/
structure SpanSet.IsOpen (set : SpanSet) (t s : Span) : Prop where
  within : s.within t = true
  between : ∀ d ∈ set.toList, t.Before d → d.Before s → d.within t = true

/-- Where a span hangs is nothing to what is open. -/
theorem SpanSet.isOpen_hang {set : SpanSet} {t s : Span} {holder : Option Span} :
    set.IsOpen t (s.hang holder) ↔ set.IsOpen t s :=
  ⟨fun h => ⟨h.within, h.between⟩, fun h => ⟨h.within, h.between⟩⟩

namespace FileForest

variable {set : SpanSet} {s t : Span} {front back : List Span}

theorem mem_sorted : t ∈ set.toList.mergeSort sourceOrder ↔ t ∈ set.toList := List.mem_mergeSort

theorem exists_of_mem_walk {k : Nat} (h : (k, s) ∈ SpanTree.walkAll 0 (build set)) :
    ∃ front raw back, set.toList.mergeSort sourceOrder = front ++ raw :: back ∧
      k = (openAt raw (stackAfter front)).length ∧
      s = raw.hang (openAt raw (stackAfter front)).head? := by
  rw [build, walkAll_grow] at h
  exact exists_of_mem_trail _ _ h

theorem exists_of_mem_build_spans (h : s ∈ (build set).spans) :
    ∃ front raw back, set.toList.mergeSort sourceOrder = front ++ raw :: back ∧
      s = raw.hang (openAt raw (stackAfter front)).head? := by
  obtain ⟨⟨k, t⟩, ht, rfl⟩ := List.mem_map.1 h
  obtain ⟨front, raw, back, hsplit, -, hspan⟩ := exists_of_mem_walk ht
  exact ⟨front, raw, back, hsplit, hspan⟩

section Split

variable (ho : ∀ a ∈ set.toList, a.body.Ordered)
  (hsplit : set.toList.mergeSort sourceOrder = front ++ s :: back)
include ho hsplit

theorem nested_of_split : Nested (stackAfter front) := by
  refine nested_stackAfter fun a ha => ho a ?_
  rw [← mem_sorted, hsplit]
  exact List.mem_append_left _ ha

/-- The stack holds what is open, wherever the sweep stands. -/
theorem mem_openAt_iff :
    t ∈ openAt s (stackAfter front) ↔ t ∈ set.toList ∧ set.IsOpen t s := by
  have hsorted := pairwise_before set
  have hmem : ∀ t, t ∈ set.toList ↔ t ∈ front ∨ t = s ∨ t ∈ back := fun t => by
    rw [← mem_sorted, hsplit, List.mem_append, List.mem_cons]
  rw [hsplit, List.pairwise_append, List.pairwise_cons] at hsorted
  obtain ⟨hfront, ⟨hafter, -⟩, hcross⟩ := hsorted
  have hof : ∀ a ∈ front, a.body.Ordered := fun a ha => ho a ((hmem a).2 (.inl ha))
  have before_iff : ∀ d ∈ set.toList, d.Before s ↔ d ∈ front := by
    intro d hd
    refine ⟨fun hlt => ?_, fun hm => hcross d hm s (List.mem_cons_self ..)⟩
    rcases (hmem d).1 hd with hd | rfl | hd
    · exact hd
    · exact absurd hlt (Span.not_before_self d)
    · exact absurd hlt (hafter d hd).asymm
  rw [(nested_of_split ho hsplit).openAt_eq, List.mem_filter, mem_stackAfter hof hfront]
  refine ⟨?_, ?_⟩
  · rintro ⟨⟨ht, hin⟩, hs⟩
    refine ⟨(hmem t).2 (.inl ht), hs, fun d hd hlt hlt' => ?_⟩
    exact hin d ((before_iff d hd).1 hlt') hlt
  · rintro ⟨ht, hs, hin⟩
    refine ⟨⟨(before_iff t ht).1 (Span.before_of_within hs), fun d hd hlt => ?_⟩, hs⟩
    have hd' : d ∈ set.toList := (hmem d).2 (.inl hd)
    exact hin d hd' hlt ((before_iff d hd').2 hd)

end Split

/-- Where bodies start before they end, a span has a parent if something is open when it comes, and
its parent is the innermost of what is open. -/
theorem parent_build (ho : ∀ a ∈ set.toList, a.body.Ordered) (h : s ∈ (build set).spans) :
    (s.parentId = none ∧ ∀ t ∈ set.toList, ¬set.IsOpen t s) ∨
      ∃ p ∈ set.toList, s.parentId = some p.id ∧ set.IsOpen p s ∧
        ∀ t ∈ set.toList, set.IsOpen t s → t = p ∨ p.within t = true := by
  obtain ⟨front, raw, back, hsplit, rfl⟩ := exists_of_mem_build_spans h
  have hopen : ∀ t, t ∈ openAt raw (stackAfter front) ↔ t ∈ set.toList ∧ set.IsOpen t raw :=
    fun t => mem_openAt_iff ho hsplit
  have hnested : (openAt raw (stackAfter front)).Pairwise fun t u => t.within u = true := by
    rw [(nested_of_split ho hsplit).openAt_eq]
    exact (nested_of_split ho hsplit).within.filter _
  simp only [SpanSet.isOpen_hang]
  cases hs : openAt raw (stackAfter front) with
  | nil =>
    refine .inl ⟨rfl, fun t ht hop => ?_⟩
    have hm := (hopen t).2 ⟨ht, hop⟩
    rw [hs] at hm
    cases hm
  | cons p rest =>
    have hin := (hopen p).1 (hs ▸ List.mem_cons_self ..)
    refine .inr ⟨p, hin.1, rfl, hin.2, fun t ht hop => ?_⟩
    have hm := (hopen t).2 ⟨ht, hop⟩
    rw [hs] at hm hnested
    exact (List.mem_cons.1 hm).imp_right ((List.pairwise_cons.1 hnested).1 t)

end FileForest

end SymbolAtlas
