import Mathlib
import SymbolAtlas.Proofs.Forest.Canonical
import SymbolAtlas.Proofs.Forest.Innermost

/-!
# How deep spans stand

The depth of a span in its forest is the number of spans that are open when it comes
(`exists_of_mem_walkAll`). Where bodies are equal, nested or apart, what lies inside a span of several
lines stands deeper than that span, unless it is a point at its end (`Laminar.length_openSpans_lt`).
So siblings overlap only where they have one body or the first of them has one line
(`pairwise_siblings`).
-/

namespace SymbolAtlas

namespace SpanSet

variable {set : SpanSet} {a b d s t : Span}

instance (set : SpanSet) (t s : Span) : Decidable (set.IsOpen t s) :=
  decidable_of_iff
    (s.within t = true ∧ ∀ d ∈ set.toList, t.Before d → d.Before s → d.within t = true)
    ⟨fun h => ⟨h.1, h.2⟩, fun h => ⟨h.within, h.between⟩⟩

/-- The spans that are open when `s` comes. -/
def openSpans (set : SpanSet) (s : Span) : List Span :=
  set.toList.filter fun t => set.IsOpen t s

theorem mem_openSpans : t ∈ set.openSpans s ↔ t ∈ set.toList ∧ set.IsOpen t s := by
  rw [openSpans, List.mem_filter, decide_eq_true_eq]

theorem nodup_openSpans (set : SpanSet) (s : Span) : (set.openSpans s).Nodup :=
  set.nodup_ids.of_map.filter _

end SpanSet

namespace FileForest

variable {set : SpanSet} {s : Span} {k : Nat}

/-- As many spans are open when a span comes as it stands deep. -/
theorem exists_of_mem_walkAll (ho : ∀ a ∈ set.toList, a.body.Ordered)
    (h : (k, s) ∈ SpanTree.walkAll 0 (build set)) :
    ∃ raw ∈ set.toList, ∃ holder, s = raw.hang holder ∧ k = (set.openSpans raw).length := by
  obtain ⟨front, raw, back, hsplit, rfl, rfl⟩ := exists_of_mem_walk h
  have hraw : raw ∈ set.toList := by
    rw [← mem_sorted, hsplit]
    exact List.mem_append_right _ (List.mem_cons_self ..)
  have hnested := nested_of_split ho hsplit
  have hnodup : (openAt raw (stackAfter front)).Nodup := by
    rw [hnested.openAt_eq]
    refine .filter _ (hnested.within.imp fun hin heq => ?_)
    exact Range.ne_of_within hin (congrArg Span.body heq)
  refine ⟨raw, hraw, _, rfl, List.Perm.length_eq ?_⟩
  rw [List.perm_ext_iff_of_nodup hnodup (set.nodup_openSpans raw)]
  intro t
  rw [mem_openAt_iff ho hsplit, SpanSet.mem_openSpans]

end FileForest

/-! ## Inside a span of several lines -/

namespace SpanSet.Laminar

variable {set : SpanSet} {a b d t : Span} (h : set.Laminar)
include h

/-- What does not come before a span and starts before it ends lies inside it or has its body. -/
theorem encloses_of_not_before (ha : a ∈ set.toList) (hd : d ∈ set.toList) (hnot : ¬d.Before a)
    (hlt : d.body.start.toNat < a.body.stop.toNat) : a.body.encloses d.body = true := by
  have hoa := Range.ordered_iff.1 (h.ordered a ha)
  have hod := Range.ordered_iff.1 (h.ordered d hd)
  have hstart : a.body.start.toNat ≤ d.body.start.toNat :=
    Nat.le_of_not_lt fun hlt => hnot (Span.before_iff.2 (.inl hlt))
  rcases h.nested a ha d hd with heq | had | hda | hapart
  · rw [heq, Range.encloses_iff_toNat]
    omega
  · exact had.1
  · exact absurd (Span.before_of_surrounds hda) hnot
  · rw [Range.apart_iff] at hapart
    rw [Range.encloses_iff_toNat]
    omega

variable (ha : a ∈ set.toList) (hab : a.body.Surrounds b.body) (hline : ¬a.body.singleLine = true)
  (hlt : b.body.start.toNat < a.body.stop.toNat)
include ha hab hline hlt

theorem isOpen_of_isOpen (hopen : set.IsOpen t a) : set.IsOpen t b := by
  have hta := Range.surrounds_of_within hopen.within
  have hwide : ¬t.body.singleLine = true := fun hone =>
    hline (Range.singleLine_of_encloses hone hta.1 (h.ordered a ha))
  have inside : ∀ d : Span, a.body.encloses d.body = true → d.within t = true := fun d hd =>
    Range.within_iff.2 ⟨hta.trans_encloses hd, fun hone => absurd hone hwide⟩
  refine ⟨inside b hab.1, fun d hd htd hdb => ?_⟩
  by_cases hda : d.Before a
  · exact hopen.between d hd htd hda
  · have hstart := Span.start_le_of_before hdb
    exact inside d (h.encloses_of_not_before ha hd hda (by omega))

/-- Of the spans with the body of `a` the last one is open when `b` comes. -/
theorem exists_isOpen : ∃ c ∈ set.toList, c.body = a.body ∧ set.IsOpen c b := by
  have hex : ∃ q ∈ set.toList, decide (q.body = a.body) = true := ⟨a, ha, decide_eq_true rfl⟩
  obtain ⟨c, hc, hbody, hlast⟩ := exists_last hex
  replace hbody : c.body = a.body := of_decide_eq_true hbody
  have inside : ∀ d : Span, a.body.Surrounds d.body → d.within c = true := fun d hd => by
    rw [Span.within, hbody, Range.within_iff]
    exact ⟨hd, fun hone => absurd hone hline⟩
  refine ⟨c, hc, hbody, inside b hab, fun d hd hcd hdb => inside d ⟨?_, fun heq => ?_⟩⟩
  · have hstart := Span.start_le_of_before hdb
    rw [← hbody] at hlt ⊢
    exact h.encloses_of_not_before hc hd hcd.asymm (by omega)
  · rcases hlast d hd (decide_eq_true heq.symm) with rfl | hdc
    · exact Span.not_before_self d hcd
    · exact hcd.asymm hdc

/-- What lies inside a span of several lines stands deeper, if it starts before that span ends. -/
theorem length_openSpans_lt : (set.openSpans a).length < (set.openSpans b).length := by
  obtain ⟨c, hc, hbody, hopen⟩ := h.exists_isOpen ha hab hline hlt
  have hnot : c ∉ set.openSpans a := fun hm =>
    Range.ne_of_within (mem_openSpans.1 hm).2.within hbody.symm
  have hnodup : (c :: set.openSpans a).Nodup := List.nodup_cons.2 ⟨hnot, set.nodup_openSpans a⟩
  refine (List.subperm_of_subset hnodup fun t ht => ?_).length_le
  rcases List.mem_cons.1 ht with rfl | ht
  · exact mem_openSpans.2 ⟨hc, hopen⟩
  · obtain ⟨hm, hopen⟩ := mem_openSpans.1 ht
    exact mem_openSpans.2 ⟨hm, h.isOpen_of_isOpen ha hab hline hlt hopen⟩

end SpanSet.Laminar

/-! ## Siblings -/

namespace SpanTree

/-- The roots of a walk come at the depth where it starts. -/
theorem sublist_walkAll (k : Nat) : (ts : List SpanTree) →
    (ts.map fun t => (k, t.span)).Sublist (walkAll k ts)
  | [] => .slnil
  | .node s us :: ts => by
    rw [walkAll, walk, List.cons_append]
    exact ((sublist_walkAll k ts).trans (List.sublist_append_right ..)).cons_cons (k, s)

theorem walkAll_sublist_of_mem {s : Span} {us ts : List SpanTree} (k : Nat)
    (h : node s us ∈ ts) : (walkAll (k + 1) us).Sublist (walkAll k ts) := by
  induction ts with
  | nil => cases h
  | cons t ts ih =>
    rw [walkAll]
    rcases List.mem_cons.1 h with rfl | h
    · rw [walk]
      exact (List.sublist_cons_self ..).trans (List.sublist_append_left ..)
    · exact (ih h).trans (List.sublist_append_right ..)

end SpanTree

namespace FileForest

/-- The lists of siblings in a forest: its roots, and the children of each node. -/
inductive Siblings (f : FileForest) : List SpanTree → Prop
  | roots : Siblings f f
  | children {s : Span} {us ts : List SpanTree} (h : Siblings f ts) (hm : .node s us ∈ ts) :
    Siblings f us

/-- Siblings come one after the other in the walk, all at one depth. -/
theorem Siblings.exists_sublist {f : FileForest} {ts : List SpanTree} (h : Siblings f ts) :
    ∃ k, (ts.map fun t => (k, t.span)).Sublist (SpanTree.walkAll 0 f) := by
  have hwalk : ∃ k, (SpanTree.walkAll k ts).Sublist (SpanTree.walkAll 0 f) := by
    induction h with
    | roots => exact ⟨0, .refl _⟩
    | children _ hm ih =>
      obtain ⟨k, hk⟩ := ih
      exact ⟨k + 1, (SpanTree.walkAll_sublist_of_mem k hm).trans hk⟩
  obtain ⟨k, hk⟩ := hwalk
  exact ⟨k, (SpanTree.sublist_walkAll k ts).trans hk⟩

variable {set : SpanSet} {a b : Span} {k : Nat}

/-- Of two spans of one depth the first ends before the second starts, or both have one body, or the
first has one line. -/
theorem clear_of_depth_eq (h : set.Laminar) (ha : (k, a) ∈ SpanTree.walkAll 0 (build set))
    (hb : (k, b) ∈ SpanTree.walkAll 0 (build set)) (hlt : a.Before b) :
    compare a.body.stop b.body.start ≠ .gt ∨ a.body = b.body ∨ a.body.singleLine = true := by
  obtain ⟨a, hma, _, rfl, hdepth⟩ := exists_of_mem_walkAll h.ordered ha
  obtain ⟨b, hmb, _, rfl, hdepth'⟩ := exists_of_mem_walkAll h.ordered hb
  replace hlt : a.Before b := hlt
  show compare a.body.stop b.body.start ≠ .gt ∨ a.body = b.body ∨ a.body.singleLine = true
  by_contra hcon
  simp only [not_or] at hcon
  obtain ⟨hnot, hne, hline⟩ := hcon
  have hstop : b.body.start.toNat < a.body.stop.toNat := by
    rw [← Nat.not_le, ← Position.isLE_compare_iff, Ordering.isLE_iff_ne_gt]
    exact hnot
  have henc := h.encloses_of_not_before hma hmb hlt.asymm hstop
  have hdeeper := h.length_openSpans_lt hma ⟨henc, hne⟩ hline hstop
  omega

/-- Siblings do not overlap: where bodies are equal, nested or apart, an earlier one ends before a
later one starts, unless they have one body or the earlier one has one line. -/
theorem pairwise_siblings (h : set.Laminar) {ts : List SpanTree} (hts : Siblings (build set) ts) :
    ts.Pairwise fun t u => compare t.span.body.stop u.span.body.start ≠ .gt ∨
      t.span.body = u.span.body ∨ t.span.body.singleLine = true := by
  obtain ⟨k, hsub⟩ := hts.exists_sublist
  have hbefore : (SpanTree.walkAll 0 (build set)).Pairwise fun d e => d.2.Before e.2 :=
    List.pairwise_map.1 (pairwise_before_build set)
  refine (List.pairwise_map.1 (hbefore.sublist hsub)).imp_of_mem fun ht hu hlt => ?_
  exact clear_of_depth_eq h (hsub.subset (List.mem_map_of_mem ht))
    (hsub.subset (List.mem_map_of_mem hu)) hlt

/-- The members of the class are clear of each other. -/
theorem pairwise_siblings_class :
    SpanSet.classSet.Laminar ∧ ∃ ts, Siblings (build SpanSet.classSet) ts ∧
      ts.map (·.span.name) = ["s", "m"] ∧
      ts.Pairwise fun t u => compare t.span.body.stop u.span.body.start ≠ .gt ∨
        t.span.body = u.span.body ∨ t.span.body.singleLine = true := by
  have h : SpanSet.classSet.Laminar := by decide
  have hroot : ∃ s us, (build SpanSet.classSet)[0]? = some (.node s us) ∧
      us.map (·.span.name) = ["s", "m"] := ⟨_, _, by cbv, by cbv⟩
  obtain ⟨s, us, hget, hnames⟩ := hroot
  have hus : Siblings (build SpanSet.classSet) us := .children .roots (List.mem_of_getElem? hget)
  exact ⟨h, us, hus, hnames, pairwise_siblings h hus⟩

end FileForest

end SymbolAtlas
