import Mathlib
import SymbolAtlas.Proofs.Forest.Innermost

/-!
# Down the branches of a forest

A branch of a forest leads from a root down to one of its spans, and there is one for each of them
(`map_getLast?_branches`). From step to step each span hangs from the one before it
(`leadsDown_of_mem_branches`). Lying within is transitive where bodies do not end before they start,
so a span of a branch lies within everything above it, and no body comes twice (`branches_build`).
-/

namespace SymbolAtlas

/-! ## One span in another -/

namespace Span

/-- `inner` lies within `outer` and does not end before it starts. -/
structure Holds (outer inner : Span) : Prop where
  within : inner.within outer = true
  ordered : inner.body.Ordered

instance : Trans Holds Holds Holds where
  trans h h' := ⟨within_trans h'.within h.within h.ordered, h'.ordered⟩

end Span

/-! ## Branches -/

namespace SpanTree

mutual

/-- The spans from the root down to each span of a tree, in the order of the walk. -/
def branches : SpanTree → List (List Span)
  | node s ts => [s] :: (branchesAll ts).map (s :: ·)

def branchesAll : List SpanTree → List (List Span)
  | [] => []
  | t :: ts => branches t ++ branchesAll ts

end

variable {ts : List SpanTree} {s : Span} {path below : List Span}

theorem mem_branchesAll : path ∈ branchesAll ts ↔ ∃ t ∈ ts, path ∈ branches t := by
  induction ts with
  | nil => simp [branchesAll]
  | cons t ts ih => rw [branchesAll, List.mem_append, ih, List.exists_mem_cons_iff]

/-- A branch starts at a root, and goes on as a branch of what the root holds. -/
theorem cons_mem_branchesAll : s :: below ∈ branchesAll ts ↔
    ∃ us, node s us ∈ ts ∧ (below = [] ∨ below ∈ branchesAll us) := by
  rw [mem_branchesAll]
  refine ⟨?_, ?_⟩
  · rintro ⟨⟨r, us⟩, ht, h⟩
    rw [branches, List.mem_cons, List.mem_map] at h
    rcases h with heq | ⟨rest, hrest, heq⟩
    · cases heq
      exact ⟨us, ht, .inl rfl⟩
    · cases heq
      exact ⟨us, ht, .inr hrest⟩
  · rintro ⟨us, ht, rfl | hbelow⟩
    · exact ⟨node s us, ht, List.mem_cons_self ..⟩
    · exact ⟨node s us, ht, List.mem_cons_of_mem _ (List.mem_map_of_mem hbelow)⟩

mutual

theorem map_getLast?_branches (k : Nat) : (t : SpanTree) →
    (branches t).map List.getLast? = (walk k t).map fun d => some d.2
  | node s ts => by
    have hcons : ∀ below : List Span, (s :: below).getLast? = some (below.getLast?.getD s) :=
      fun _ => List.getLast?_cons
    have hbelow := congrArg (List.map fun o => some (o.getD s)) (map_getLast?_branchesAll (k + 1) ts)
    rw [List.map_map, List.map_map] at hbelow
    rw [branches, walk, List.map_cons, List.map_cons, List.map_map]
    refine congrArg (some s :: ·) (Eq.trans ?_ hbelow)
    exact List.map_congr_left fun below _ => hcons below

theorem map_getLast?_branchesAll (k : Nat) : (ts : List SpanTree) →
    (branchesAll ts).map List.getLast? = (walkAll k ts).map fun d => some d.2
  | [] => rfl
  | t :: ts => by
    rw [branchesAll, walkAll, List.map_append, List.map_append, map_getLast?_branches k t,
      map_getLast?_branchesAll k ts]

end

theorem isChain_of_mem_branchesAll (hts : ∀ t ∈ ts, t.Linked) (h : path ∈ branchesAll ts) :
    path.IsChain fun outer inner => inner.IsChildOf outer := by
  induction path generalizing ts with
  | nil => exact .nil
  | cons s below ih =>
    obtain ⟨us, hm, rfl | hbelow⟩ := cons_mem_branchesAll.1 h
    · exact .singleton s
    · cases hts _ hm with
      | node children linked =>
        refine (ih linked hbelow).cons fun c hc => ?_
        obtain ⟨rest, rfl⟩ := List.head?_eq_some_iff.1 hc
        obtain ⟨vs, hc, -⟩ := cons_mem_branchesAll.1 hbelow
        exact children _ hc

theorem mem_spans_of_mem_branchesAll (h : path ∈ branchesAll ts) :
    ∀ a ∈ path, a ∈ FileForest.spans ts := by
  induction path generalizing ts with
  | nil => exact fun a ha => absurd ha List.not_mem_nil
  | cons s below ih =>
    obtain ⟨us, hm, hbelow⟩ := cons_mem_branchesAll.1 h
    intro a ha
    apply FileForest.mem_spans_of_mem hm
    rcases List.mem_cons.1 ha with rfl | ha
    · exact .inl rfl
    · rcases hbelow with rfl | hbelow
      · cases ha
      · exact .inr (ih hbelow a ha)

end SpanTree

namespace FileForest

open SpanSet SpanTree

variable {set : SpanSet} {path : List Span}

/-- The spans from a root down to each span of the forest. -/
def branches (f : FileForest) : List (List Span) := branchesAll f

/-- The first span has no parent, and every other one hangs from the one before it. -/
structure LeadsDown (path : List Span) : Prop where
  root : ∀ s ∈ path.head?, s.parentId = none
  hangs : path.IsChain fun outer inner => inner.IsChildOf outer

/-- There is one branch for each span of the forest, and it ends there. -/
theorem map_getLast?_branches (f : FileForest) :
    f.branches.map List.getLast? = f.spans.map some := by
  rw [branches, SpanTree.map_getLast?_branchesAll 0, spans, List.map_map]
  rfl

theorem leadsDown_of_mem_branches (h : path ∈ (build set).branches) : LeadsDown path := by
  refine ⟨fun s hs => ?_, isChain_of_mem_branchesAll (fun t ht => (linked_grow _ t ht).2) h⟩
  obtain ⟨below, rfl⟩ := List.head?_eq_some_iff.1 hs
  obtain ⟨us, hm, -⟩ := cons_mem_branchesAll.1 h
  exact (linked_grow _ _ hm).1

/-- What leads from one span to the next leads from each to all that follow it. -/
theorem LeadsDown.pairwise_within (h : LeadsDown path) (ho : ∀ a ∈ path, a.body.Ordered) :
    path.Pairwise fun outer inner => inner.within outer = true := by
  have hholds : path.IsChain Span.Holds :=
    h.hangs.imp_of_mem_imp fun outer inner _ hin hc => ⟨hc.2, ho inner hin⟩
  exact (List.isChain_iff_pairwise.1 hholds).imp fun hh => hh.within

/-- Lying within is a strict order on spans whose bodies do not end before they start. In a forest of
such spans there is one branch for each span, down to it from a root, by the parents; every span of a
branch lies within all that come before it, and no body comes twice. -/
theorem branches_build :
    (∀ a : Span, ¬a.within a = true) ∧
      (∀ a b : Span, a.within b = true → ¬b.within a = true) ∧
      (∀ a b d : Span, a.within b = true → b.within d = true → b.body.Ordered →
        a.within d = true) ∧
      ∀ set : SpanSet, (∀ a ∈ set.toList, a.body.Ordered) →
        (build set).branches.map List.getLast? = (build set).spans.map some ∧
          ∀ path ∈ (build set).branches, LeadsDown path ∧
            path.Pairwise (fun outer inner => inner.within outer = true) ∧
            (path.map (·.body)).Nodup := by
  refine ⟨Span.not_within_self, fun _ _ => Span.within_asymm, fun _ _ _ => Span.within_trans,
    fun set ho => ⟨map_getLast?_branches _, fun path hpath => ?_⟩⟩
  have hdown := leadsDown_of_mem_branches hpath
  have hordered : ∀ a ∈ path, a.body.Ordered := fun a ha =>
    ordered_of_mem_build ho (mem_spans_of_mem_branchesAll hpath a ha)
  have hwithin := hdown.pairwise_within hordered
  refine ⟨hdown, hwithin, List.pairwise_map.2 (hwithin.imp fun hin heq => ?_)⟩
  exact Range.ne_of_within hin heq.symm

/-- The class around the structure of one line. -/
def lineClass : Span := ⟨"C", "CLASS_DECL", "Cpp", .lines 1 1, .lines 1 9, "b", none⟩

/-- The class and then the structure lead down to the field, which lies within both. -/
theorem branches_classSet :
    lineField.within lineStruct = true ∧ lineStruct.within lineClass = true ∧
      lineStruct.body.Ordered ∧ lineField.within lineClass = true ∧
      ¬lineStruct.within lineField = true ∧ (∀ a ∈ classSet.toList, a.body.Ordered) ∧
      ∃ path ∈ (build classSet).branches,
        path = [lineClass, lineStruct.hang (some lineClass), lineField.hang (some lineStruct)] ∧
          path.Pairwise (fun outer inner => inner.within outer = true) ∧
          (path.map (·.body)).Nodup := by
  have hfield : lineField.within lineStruct = true := by decide
  have hstruct : lineStruct.within lineClass = true := by decide
  have ho : ∀ a ∈ classSet.toList, a.body.Ordered := by decide
  have hget : (build classSet).branches[2]? =
      some [lineClass, lineStruct.hang (some lineClass), lineField.hang (some lineStruct)] := by cbv
  have hpath := List.mem_of_getElem? hget
  obtain ⟨-, hasymm, htrans, hforest⟩ := branches_build
  obtain ⟨-, hbranches⟩ := hforest classSet ho
  obtain ⟨-, hwithin, hbodies⟩ := hbranches _ hpath
  exact ⟨hfield, hstruct, by decide, htrans _ _ _ hfield hstruct (by decide), hasymm _ _ hfield,
    ho, _, hpath, rfl, hwithin, hbodies⟩

end FileForest

end SymbolAtlas
