import SymbolAtlas.Forest
import SymbolAtlas.Proofs.Span

/-!
# What a forest makes of its spans

A forest lists the spans it was built from in source order and changes nothing in them but the
parent (`spans_build`). The parents are the spans that hold a span in its tree (`linked_grow`), so a
span that has a parent lies within it, and the parent is a span of the same forest
(`exists_isChildOf`).
-/

namespace SymbolAtlas

/-- The span without the place that a forest gave it. -/
def Span.unplaced (s : Span) : Span := { s with parentId := none }

/-- The span names `outer` as its parent and lies within it. -/
def Span.IsChildOf (s outer : Span) : Prop :=
  s.parentId = some outer.id ∧ s.within outer = true

/-! ## Walking a forest -/

namespace SpanTree

mutual

/-- Which spans a walk meets does not depend on the depth it starts from. -/
theorem map_walk (j k : Nat) : (t : SpanTree) → (walk j t).map (·.2) = (walk k t).map (·.2)
  | node s ts => congrArg (s :: ·) (map_walkAll (j + 1) (k + 1) ts)

theorem map_walkAll (j k : Nat) : (ts : List SpanTree) →
    (walkAll j ts).map (·.2) = (walkAll k ts).map (·.2)
  | [] => rfl
  | t :: ts => by
    simp only [walkAll, List.map_append]
    rw [map_walk j k t, map_walkAll j k ts]

end

/-- Every span below the root names the span that holds it as its parent and lies within it. -/
inductive Linked : SpanTree → Prop
  | node {s : Span} {ts : List SpanTree} (children : ∀ t ∈ ts, t.span.IsChildOf s)
      (below : ∀ t ∈ ts, Linked t) : Linked (.node s ts)

end SpanTree

namespace FileForest

theorem spans_cons (s : Span) (ts us : List SpanTree) :
    spans (.node s ts :: us) = s :: (spans ts ++ spans us) := by
  simp only [spans, SpanTree.walkAll, SpanTree.walk, List.map_append, List.map_cons,
    List.cons_append]
  rw [SpanTree.map_walkAll 1 0]

theorem mem_spans_cons {a s : Span} {ts us : List SpanTree} :
    a ∈ spans (.node s ts :: us) ↔ a = s ∨ a ∈ spans ts ∨ a ∈ spans us := by
  rw [spans_cons, List.mem_cons, List.mem_append]

/-- A forest lists the spans of each of its trees. -/
theorem mem_spans_of_mem {a s : Span} {ts us : List SpanTree} (hm : .node s us ∈ ts)
    (ha : a = s ∨ a ∈ spans us) : a ∈ spans ts := by
  induction ts with
  | nil => cases hm
  | cons t ts ih =>
    obtain ⟨r, vs⟩ := t
    rw [mem_spans_cons]
    rcases List.mem_cons.1 hm with heq | hm
    · cases heq
      exact ha.imp_right .inl
    · exact .inr (.inr (ih hm))

/-! ## Building -/

/-- The spans that were taken and those that are left are the spans there were, in order. -/
theorem spans_under (outer : Span) (l : List Span) :
    (spans (under outer l).1 ++ (under outer l).2.1).map Span.unplaced = l.map Span.unplaced := by
  fun_induction under outer l with
  | case1 outer => rfl
  | case2 outer s l hin children rest h heq siblings rest' h' heq' ih ih' =>
    rw [heq, List.map_append] at ih
    rw [heq', List.map_append] at ih'
    rw [spans_cons, List.cons_append, List.map_cons, List.map_cons, List.append_assoc,
      List.map_append, List.map_append, ih', ih]
    rfl
  | case3 outer s l hout => rfl

theorem spans_grow (l : List Span) : (spans (grow l)).map Span.unplaced = l.map Span.unplaced := by
  fun_induction grow l with
  | case1 => rfl
  | case2 s l children rest h heq ih =>
    have hu := spans_under s l
    rw [heq, List.map_append] at hu
    rw [spans_cons, List.map_cons, List.map_append, ih, hu]
    rfl

/-! ## Links -/

/-- What is taken hangs from `outer`, and within it everything from what holds it. -/
theorem linked_under (outer : Span) (l : List Span) :
    ∀ t ∈ (under outer l).1, t.span.IsChildOf outer ∧ t.Linked := by
  fun_induction under outer l with
  | case1 outer => exact fun t ht => absurd ht List.not_mem_nil
  | case2 outer s l hin children rest h heq siblings rest' h' heq' ih ih' =>
    rw [heq] at ih
    rw [heq'] at ih'
    intro t ht
    rcases List.mem_cons.1 ht with rfl | ht
    · exact ⟨⟨rfl, hin⟩, .node (fun c hc => (ih c hc).1) fun c hc => (ih c hc).2⟩
    · exact ih' t ht
  | case3 outer s l hout => exact fun t ht => absurd ht List.not_mem_nil

theorem linked_grow (l : List Span) : ∀ t ∈ grow l, t.span.parentId = none ∧ t.Linked := by
  fun_induction grow l with
  | case1 => exact fun t ht => absurd ht List.not_mem_nil
  | case2 s l children rest h heq ih =>
    have hu := linked_under s l
    rw [heq] at hu
    intro t ht
    rcases List.mem_cons.1 ht with rfl | ht
    · exact ⟨rfl, .node (fun c hc => (hu c hc).1) fun c hc => (hu c hc).2⟩
    · exact ih t ht

/-- A span of linked trees is a root or hangs from a span of these trees. -/
theorem exists_isChildOf_of_linked : (ts : List SpanTree) → (∀ t ∈ ts, t.Linked) →
    ∀ a ∈ spans ts, (∃ t ∈ ts, t.span = a) ∨ ∃ b ∈ spans ts, a.IsChildOf b
  | [], _, a, ha => absurd ha List.not_mem_nil
  | .node s us :: ts, h, a, ha => by
    obtain ⟨hroot, hrest⟩ := List.forall_mem_cons.1 h
    cases hroot with
    | node children below =>
      rcases mem_spans_cons.1 ha with rfl | ha | ha
      · exact .inl ⟨_, List.mem_cons_self .., rfl⟩
      · rcases exists_isChildOf_of_linked us below a ha with ⟨u, hu, rfl⟩ | ⟨b, hb, hc⟩
        · exact .inr ⟨s, mem_spans_cons.2 (.inl rfl), children u hu⟩
        · exact .inr ⟨b, mem_spans_cons.2 (.inr (.inl hb)), hc⟩
      · rcases exists_isChildOf_of_linked ts hrest a ha with ⟨t, ht, heq⟩ | ⟨b, hb, hc⟩
        · exact .inl ⟨t, List.mem_cons_of_mem _ ht, heq⟩
        · exact .inr ⟨b, mem_spans_cons.2 (.inr (.inr hb)), hc⟩

/-! ## The forest of a set -/

variable {set : SpanSet} {a : Span} {id : String}

/-- A walk over the forest meets every span of the set once, in source order, with nothing changed
but its parent. -/
theorem spans_build (set : SpanSet) :
    (build set).spans.map Span.unplaced =
      (set.toList.mergeSort sourceOrder).map Span.unplaced :=
  spans_grow _

/-- The walk meets every span once. -/
theorem perm_spans_build (set : SpanSet) :
    ((build set).spans.map Span.unplaced).Perm (set.toList.map Span.unplaced) := by
  rw [spans_build]
  exact (List.mergeSort_perm ..).map _

theorem nodup_ids_build (set : SpanSet) : ((build set).spans.map (·.id)).Nodup := by
  have hids : ∀ l : List Span, l.map (·.id) = (l.map Span.unplaced).map (·.id) := fun l => by
    rw [List.map_map]
    rfl
  rw [hids, ((perm_spans_build set).map _).nodup_iff, ← hids]
  exact set.nodup_ids

theorem exists_of_mem_build (h : a ∈ (build set).spans) :
    ∃ b ∈ set.toList, b.unplaced = a.unplaced := by
  have hm : a.unplaced ∈ (build set).spans.map Span.unplaced := List.mem_map.2 ⟨a, h, rfl⟩
  rw [spans_build, List.mem_map] at hm
  obtain ⟨b, hb, e⟩ := hm
  exact ⟨b, List.mem_mergeSort.1 hb, e⟩

theorem exists_mem_build (h : a ∈ set.toList) :
    ∃ b ∈ (build set).spans, b.unplaced = a.unplaced := by
  have hm : a.unplaced ∈ (set.toList.mergeSort sourceOrder).map Span.unplaced :=
    List.mem_map.2 ⟨a, List.mem_mergeSort.2 h, rfl⟩
  rw [← spans_build, List.mem_map] at hm
  exact hm

theorem ordered_of_mem_build (ho : ∀ a ∈ set.toList, a.body.Ordered)
    (h : a ∈ (build set).spans) : a.body.Ordered := by
  obtain ⟨b, hb, heq⟩ := exists_of_mem_build h
  have hbody : b.unplaced.body = a.unplaced.body := congrArg Span.body heq
  show a.unplaced.body.Ordered
  rw [← hbody]
  exact ho b hb

/-- A parent in a forest is a span of that forest around its child. -/
theorem exists_isChildOf (h : a ∈ (build set).spans) (hp : a.parentId = some id) :
    ∃ b ∈ (build set).spans, b.id = id ∧ a.within b = true := by
  have hlinked := linked_grow (set.toList.mergeSort sourceOrder)
  rcases exists_isChildOf_of_linked _ (fun t ht => (hlinked t ht).2) a h with
    ⟨t, ht, rfl⟩ | ⟨b, hb, hc, hin⟩
  · rw [(hlinked t ht).1] at hp
    cases hp
  · exact ⟨b, hb, Option.some.inj (hc.symm.trans hp), hin⟩

/-! ## Asking for a container -/

theorem foldl_best_mem (l : List (Nat × Span)) : ∀ d, l.foldl best d ∈ d :: l := by
  induction l with
  | nil => exact fun d => List.mem_cons_self ..
  | cons e l ih =>
    intro d
    rcases List.mem_cons.1 (ih (best d e)) with h | h
    · rw [List.foldl_cons, h, best]
      split <;> simp
    · exact List.mem_cons_of_mem _ (List.mem_cons_of_mem _ h)

/-- The container depends on which spans of the forest are accepted. -/
theorem innermostWhere_congr {f : FileForest} {accept accept' : Span → Bool}
    (h : ∀ a ∈ f.spans, accept a = accept' a) (target : Span) :
    f.innermostWhere target accept = f.innermostWhere target accept' := by
  have haround : ((SpanTree.walkAll 0 f).filter fun d =>
      d.2.id ≠ target.id && accept d.2 && target.within d.2) =
        (SpanTree.walkAll 0 f).filter fun d =>
          d.2.id ≠ target.id && accept' d.2 && target.within d.2 := by
    refine List.filter_congr fun d hd => ?_
    rw [h d.2 (List.mem_map.2 ⟨d, hd, rfl⟩)]
  simp only [innermostWhere, haround]

/-- The container of a target is a span of the forest, accepted, around the target. -/
theorem innermostWhere_sound {f : FileForest} {target : Span} {accept : Span → Bool}
    (h : f.innermostWhere target accept = some a) :
    a ∈ f.spans ∧ accept a = true ∧ target.within a = true := by
  unfold innermostWhere at h
  dsimp only at h
  split at h
  · cases h
  · next d ds hd =>
    have hm := foldl_best_mem ds d
    rw [← hd, List.mem_filter] at hm
    simp only [ne_eq, decide_not, Bool.and_eq_true] at hm
    cases h
    exact ⟨List.mem_map.2 ⟨_, hm.1, rfl⟩, hm.2.1.2, hm.2.2⟩

end FileForest

end SymbolAtlas
