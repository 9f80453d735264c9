import Mathlib
import SymbolAtlas.Proofs.Forest.Sweep
import SymbolAtlas.Total

/-!
# A forest is the picture of its set

Read from front to back a forest lists the spans of its set in source order, each once and changed
in nothing but its parent. The links in it are those of the trees (`SpanTree.Linked`), and whatever
order its spans are handed on in, they build the same forest again (`build_ofListKeepLast`).
`build_canonical` puts this together.
-/

namespace SymbolAtlas

/-! ## Trees -/

namespace SpanTree

mutual

theorem length_walk (depth : Nat) : (t : SpanTree) → (walk depth t).length = size t
  | node s ts => by
    rw [walk, size, List.length_cons, length_walkAll (depth + 1) ts, Nat.add_comm]

theorem length_walkAll (depth : Nat) : (ts : List SpanTree) →
    (walkAll depth ts).length = sizeAll ts
  | [] => rfl
  | t :: ts => by
    rw [walkAll, sizeAll, List.length_append, length_walk depth t, length_walkAll depth ts]

end

theorem total_map_size (ts : List SpanTree) : total (ts.map size) = sizeAll ts := by
  induction ts with
  | nil => rfl
  | cons t ts ih => rw [List.map_cons, total_cons, ih, sizeAll]

end SpanTree

namespace FileForest

/-- The sizes of the trees count the spans. -/
theorem total_size (f : FileForest) : total (f.map SpanTree.size) = f.spans.length := by
  rw [SpanTree.total_map_size, spans, List.length_map, SpanTree.length_walkAll]

/-! ## Parents that were there before -/

theorem under_nil (outer : Span) : under outer [] = ([], ⟨[], Nat.le_refl _⟩) := by
  rw [under]

/-- A span within the outer one takes what lies within it; the outer one goes on with the rest. -/
theorem under_cons {outer s : Span} (hin : s.within outer = true) (l : List Span) :
    (under outer (s :: l)).1 = .node { s with parentId := some outer.id } (under s l).1 ::
        (under outer (under s l).2.1).1 ∧
      (under outer (s :: l)).2.1 = (under outer (under s l).2.1).2.1 := by
  rw [under, if_pos hin]
  exact ⟨rfl, rfl⟩

theorem grow_cons (s : Span) (l : List Span) :
    grow (s :: l) = .node { s with parentId := none } (under s l).1 :: grow (under s l).2.1 := by
  rw [grow]

theorem under_unplaced (outer : Span) (l : List Span) :
    (under outer.unplaced (l.map Span.unplaced)).1 = (under outer l).1 ∧
      (under outer.unplaced (l.map Span.unplaced)).2.1 =
        (under outer l).2.1.map Span.unplaced := by
  fun_induction under outer l with
  | case1 outer => exact ⟨congrArg (·.1) (under_nil _), congrArg (·.2.1) (under_nil _)⟩
  | case2 outer s l hin children rest h heq siblings rest' h' heq' ih ih' =>
    have hin' : s.unplaced.within outer.unplaced = true := hin
    obtain ⟨htrees, hrest⟩ := under_cons hin' (l.map Span.unplaced)
    rw [heq] at ih
    rw [heq'] at ih'
    rw [ih.2, ih'.1, ih.1] at htrees
    rw [ih.2, ih'.2] at hrest
    exact ⟨htrees, hrest⟩
  | case3 outer s l hout =>
    have hout' : ¬s.unplaced.within outer.unplaced = true := hout
    rw [List.map_cons, under, if_neg hout']
    exact ⟨rfl, rfl⟩

theorem grow_unplaced (l : List Span) : grow (l.map Span.unplaced) = grow l := by
  fun_induction grow l with
  | case1 => rw [List.map_nil, grow]
  | case2 s l children rest h heq ih =>
    obtain ⟨htrees, hrest⟩ := under_unplaced s l
    rw [heq] at htrees hrest
    rw [List.map_cons, grow_cons, htrees, hrest, ih]
    rfl

/-- The parents that spans bring along are nothing to the forest. -/
theorem build_congr {s t : SpanSet}
    (h : s.toList.map Span.unplaced = t.toList.map Span.unplaced) : build s = build t := by
  have hsort : ∀ set : SpanSet, build set =
      grow ((set.toList.map Span.unplaced).mergeSort sourceOrder) := fun set => by
    have hmap : (set.toList.mergeSort sourceOrder).map Span.unplaced =
        (set.toList.map Span.unplaced).mergeSort sourceOrder :=
      List.map_mergeSort fun _ _ _ _ => rfl
    rw [← hmap, grow_unplaced, build]
  rw [hsort, h, hsort]

end FileForest

/-! ## Building again -/

namespace SpanSet

theorem byId_ofListKeepLast (l : List Span) :
    (ofListKeepLast l).byId = Table.ofList (l.map fun a => (a.id, a)) := by
  rw [Table.ofList, List.foldl_map]
  exact (List.foldl_hom byId fun _ _ => rfl).symm

/-- A list without repeated ids loses nothing as a set. -/
theorem mem_ofListKeepLast {l : List Span} (hl : (l.map (·.id)).Nodup) {a : Span} :
    a ∈ (ofListKeepLast l).toList ↔ a ∈ l := by
  have of_get? : ∀ {id b}, (ofListKeepLast l).byId.get? id = some b → b ∈ l ∧ b.id = id := by
    intro id b h
    rw [byId_ofListKeepLast] at h
    obtain ⟨d, hd, heq⟩ := List.mem_map.1 (Table.mem_of_get?_ofList h)
    cases heq
    exact ⟨hd, rfl⟩
  rw [mem_toList]
  refine ⟨fun h => (of_get? h).1, fun h => ?_⟩
  cases hget : (ofListKeepLast l).byId.get? a.id with
  | none =>
    rw [byId_ofListKeepLast] at hget
    exact absurd (List.mem_map.2 ⟨a, h, rfl⟩) (Table.not_mem_of_get?_ofList hget a)
  | some b =>
    obtain ⟨hb, hid⟩ := of_get? hget
    rw [List.inj_on_of_nodup_map hl hb h hid]

/-- Sets that hold the same spans up to their parents list them alike. -/
theorem map_unplaced_eq {s t : SpanSet}
    (h : ∀ u, u ∈ s.toList.map Span.unplaced ↔ u ∈ t.toList.map Span.unplaced) :
    s.toList.map Span.unplaced = t.toList.map Span.unplaced := by
  have hget : ∀ (r : SpanSet) (id : String) (u : Span),
      (r.byId.map Span.unplaced).get? id = some u ↔
        u ∈ r.toList.map Span.unplaced ∧ u.id = id := by
    intro r id u
    rw [Table.get?_map, Option.map_eq_some_iff, List.mem_map]
    simp only [get?_eq_some_iff]
    refine ⟨?_, ?_⟩
    · rintro ⟨a, ⟨ha, hid⟩, rfl⟩
      exact ⟨⟨a, ha, rfl⟩, hid⟩
    · rintro ⟨⟨a, ha, rfl⟩, hid⟩
      exact ⟨a, ⟨ha, hid⟩, rfl⟩
  have hvalues : ∀ r : SpanSet,
      r.toList.map Span.unplaced = (r.byId.map Span.unplaced).values := fun r => by
    simp [toList, Table.values, Table.map, Table.mapWithKey]
  rw [hvalues, hvalues]
  refine congrArg Table.values (Table.ext_get? fun id => Option.ext fun u => ?_)
  rw [hget, hget, h]

end SpanSet

namespace FileForest

variable {set : SpanSet}

/-- The spans of a forest build it again, in whatever order they come. -/
theorem build_ofListKeepLast {l : List Span} (h : l.Perm (build set).spans) :
    build (.ofListKeepLast l) = build set := by
  have hnodup : (l.map (·.id)).Nodup := ((h.map _).nodup_iff).2 (nodup_ids_build set)
  refine build_congr (SpanSet.map_unplaced_eq fun u => ?_)
  rw [← (perm_spans_build set).mem_iff, List.mem_map, List.mem_map]
  simp only [SpanSet.mem_ofListKeepLast hnodup, h.mem_iff]

theorem pairwise_before_build (set : SpanSet) : (build set).spans.Pairwise Span.Before := by
  have hplaced : ∀ l : List Span, l.Pairwise Span.Before ↔
      (l.map Span.unplaced).Pairwise Span.Before := fun l =>
    (List.pairwise_map (R := Span.Before) (f := Span.unplaced)).symm
  rw [hplaced, spans_build, ← hplaced]
  exact pairwise_before set

/-- The forest of a set, read from front to back, lists every span of the set once, with nothing
changed but its parent, in source order. Roots have no parent, and every other span names the one
that holds it and lies within it. The sizes of the trees add up to the number of spans. The spans
of the forest, in any order, build it again. -/
theorem build_canonical (set : SpanSet) :
    let forest := build set
    (forest.spans.map Span.unplaced).Perm (set.toList.map Span.unplaced) ∧
      forest.spans.Pairwise Span.Before ∧
      (∀ t ∈ forest, t.span.parentId = none ∧ t.Linked) ∧
      total (forest.map SpanTree.size) = set.size ∧
      ∀ l : List Span, l.Perm forest.spans → build (.ofListKeepLast l) = forest := by
  intro forest
  have hperm := perm_spans_build set
  refine ⟨hperm, pairwise_before_build set, linked_grow _, ?size, fun l => build_ofListKeepLast⟩
  case size =>
    have hlength := hperm.length_eq
    rw [List.length_map, List.length_map] at hlength
    rw [total_size, hlength]
    exact List.length_map ..

/-- Spans that overlap, one that ends before it starts, and a parent that is out of date. -/
def tangled : SpanSet := .ofListKeepFirst
  [⟨"F", "Function", "C", .lines 4 4, .lines 4 9, "a", some "z"⟩,
    ⟨"G", "Function", "C", .lines 6 6, .lines 6 12, "b", none⟩,
    ⟨"H", "Function", "C", .lines 7 7, .lines 7 2, "c", none⟩,
    ⟨"x", "Variable", "C", .lines 8 8, .lines 8 8, "d", none⟩]

/-- The overlapping spans stay roots, and their forest grows again from its walk read backwards. -/
theorem build_tangled :
    (build tangled).spans.map (fun s => (s.id, s.parentId)) =
        [("a", none), ("b", none), ("c", some "b"), ("d", some "b")] ∧
      (∃ t ∈ build tangled, t.span.parentId = none ∧ t.Linked) ∧
      (build tangled).spans.reverse.Perm (build tangled).spans ∧
      build (.ofListKeepLast (build tangled).spans.reverse) = build tangled := by
  have hperm : (build tangled).spans.reverse.Perm (build tangled).spans := List.reverse_perm _
  have hlength : (build tangled).length = 2 := by cbv
  obtain ⟨t, ht⟩ := List.exists_mem_of_length_pos (hlength ▸ Nat.zero_lt_two)
  obtain ⟨-, -, hlinks, -, hagain⟩ := build_canonical tangled
  exact ⟨by cbv, ⟨t, ht, hlinks t ht⟩, hperm, hagain _ hperm⟩

end FileForest

end SymbolAtlas
