import Mathlib
import SymbolAtlas.Proofs.Forest.Depth

/-!
# The innermost container

`FileForest.innermostWhere` asks for the least of the spans around a target, ranked by extent, then
by depth, then by id. A span inside another one ranks before it: it covers less, or it covers as much
and stands deeper (`rank_eq_lt_of_surrounds`). So where bodies are equal, nested or apart, nothing
else around the target lies inside the span that is found (`innermostWhere_build`).
-/

namespace SymbolAtlas

open Std

namespace FileForest

/-! ## The least in rank -/

instance : TransCmp rank :=
  have : TransCmp fun a b : Nat × Span => compare b.1 a.1 :=
    @TransCmp.opposite _ (compareOn fun d : Nat × Span => d.1) _
  inferInstanceAs (TransCmp (compareLex (compareOn fun d : Nat × Span => d.2.body.extent)
    (compareLex (fun a b : Nat × Span => compare b.1 a.1) (compareOn (·.2.id)))))

theorem rank_swap (d e : Nat × Span) : (rank e d).swap = rank d e := OrientedCmp.eq_swap.symm

theorem isLE_rank_self (d : Nat × Span) : (rank d d).isLE = true := by
  have hself : rank d d = .eq := ReflCmp.compare_self
  rw [hself]
  rfl

theorem isLE_rank_best (d e : Nat × Span) :
    (rank (best d e) d).isLE = true ∧ (rank (best d e) e).isLE = true := by
  unfold best
  split
  · next hlt => exact ⟨by rw [hlt]; rfl, isLE_rank_self e⟩
  · next hnot =>
    refine ⟨isLE_rank_self d, ?_⟩
    rw [← rank_swap]
    cases hcmp : rank e d with
    | lt => exact absurd hcmp hnot
    | eq => rfl
    | gt => rfl

/-- Nothing that was seen ranks before the best. -/
theorem isLE_rank_foldl_best (l : List (Nat × Span)) : ∀ d, ∀ e ∈ d :: l,
    (rank (l.foldl best d) e).isLE = true := by
  induction l with
  | nil =>
    intro d e he
    obtain rfl := List.mem_singleton.1 he
    exact isLE_rank_self e
  | cons x l ih =>
    intro d e he
    have hbest := ih (best d x) (best d x) (List.mem_cons_self ..)
    rcases List.mem_cons.1 he with rfl | he
    · exact TransCmp.isLE_trans hbest (isLE_rank_best e x).1
    · rcases List.mem_cons.1 he with rfl | he
      · exact TransCmp.isLE_trans hbest (isLE_rank_best d e).2
      · exact ih (best d x) e (List.mem_cons_of_mem _ he)

variable {f : FileForest} {set : SpanSet} {target a c q : Span} {accept : Span → Bool} {j k : Nat}

/-- A span inside another one covers less, or covers as much and stands deeper. -/
theorem rank_eq_lt_of_surrounds (h : set.Laminar) (hc : (j, c) ∈ SpanTree.walkAll 0 (build set))
    (hq : (k, q) ∈ SpanTree.walkAll 0 (build set)) (hcq : c.body.Surrounds q.body) :
    rank (k, q) (j, c) = .lt := by
  obtain ⟨c, hmc, _, rfl, hdepth⟩ := exists_of_mem_walkAll h.ordered hc
  obtain ⟨q, hmq, _, rfl, hdepth'⟩ := exists_of_mem_walkAll h.ordered hq
  replace hcq : c.body.Surrounds q.body := hcq
  show (compare q.body.extent c.body.extent).then ((compare j k).then (compare q.id c.id)) = .lt
  rcases Range.extent_lt_or_eq hcq (h.ordered q hmq) with hless | ⟨hsame, hline, hlt⟩
  · rw [Range.Extent.compare_eq_lt_iff.2 hless]
    rfl
  · have hdeeper := h.length_openSpans_lt hmc hcq hline hlt
    rw [← hdepth, ← hdepth'] at hdeeper
    rw [hsame, ReflOrd.compare_self, Nat.compare_eq_lt.2 hdeeper]
    rfl

/-! ## What is found -/

/-- A span of the forest that is accepted, lies around the target and is not the target itself. -/
structure IsContainer (f : FileForest) (target : Span) (accept : Span → Bool) (c : Span) :
    Prop where
  mem : c ∈ f.spans
  ne : c.id ≠ target.id
  accepted : accept c = true
  within : target.within c = true

/-- The containers of a target with their depths. -/
def containers (f : FileForest) (target : Span) (accept : Span → Bool) : List (Nat × Span) :=
  (SpanTree.walkAll 0 f).filter fun d =>
    d.2.id ≠ target.id && accept d.2 && target.within d.2

theorem innermostWhere_eq (f : FileForest) (target : Span) (accept : Span → Bool) :
    f.innermostWhere target accept = match f.containers target accept with
      | [] => none
      | d :: ds => some (ds.foldl best d).2 := rfl

theorem mem_containers {d : Nat × Span} : d ∈ f.containers target accept ↔
    d ∈ SpanTree.walkAll 0 f ∧ f.IsContainer target accept d.2 := by
  rw [containers, List.mem_filter, Bool.and_eq_true, Bool.and_eq_true, decide_eq_true_eq, and_assoc]
  refine and_congr_right fun hd => ⟨?_, ?_⟩
  · rintro ⟨hne, haccept, hin⟩
    exact ⟨List.mem_map_of_mem hd, hne, haccept, hin⟩
  · intro hc
    exact ⟨hc.ne, hc.accepted, hc.within⟩

theorem IsContainer.exists_mem (h : f.IsContainer target accept c) :
    ∃ k, (k, c) ∈ f.containers target accept := by
  obtain ⟨⟨k, c⟩, hd, rfl⟩ := List.mem_map.1 h.mem
  exact ⟨k, mem_containers.2 ⟨hd, h⟩⟩

/-- Nothing is found only if there is no container. -/
theorem innermostWhere_eq_none_iff :
    f.innermostWhere target accept = none ↔ ∀ c, ¬f.IsContainer target accept c := by
  rw [innermostWhere_eq]
  split
  · next hnil =>
    refine iff_of_true rfl fun c hc => ?_
    obtain ⟨k, hk⟩ := hc.exists_mem
    rw [hnil] at hk
    cases hk
  · next d ds hcons =>
    have hd : d ∈ f.containers target accept := hcons ▸ List.mem_cons_self ..
    exact iff_of_false nofun fun hnone => hnone d.2 (mem_containers.1 hd).2

/-- What is found is a container, and no container ranks before it. -/
theorem exists_of_innermostWhere (h : f.innermostWhere target accept = some c) :
    ∃ j, (j, c) ∈ f.containers target accept ∧
      ∀ d ∈ f.containers target accept, (rank (j, c) d).isLE = true := by
  rw [innermostWhere_eq] at h
  split at h
  · cases h
  · next d ds hcons =>
    obtain rfl := Option.some.inj h
    rw [hcons]
    exact ⟨_, foldl_best_mem ds d, isLE_rank_foldl_best ds d⟩

/-- Where bodies are equal, nested or apart, a container is found if there is one, and no other
container lies inside it. The spans among which it is looked for are those of the set, with nothing
changed but their parents. -/
theorem innermostWhere_build (h : set.Laminar) (target : Span) (accept : Span → Bool) :
    ((build set).spans.map Span.unplaced).Perm (set.toList.map Span.unplaced) ∧
      ((build set).innermostWhere target accept = none ↔
        ∀ c, ¬(build set).IsContainer target accept c) ∧
      ∀ c, (build set).innermostWhere target accept = some c →
        (build set).IsContainer target accept c ∧
          ∀ q, (build set).IsContainer target accept q → ¬c.body.Surrounds q.body := by
  refine ⟨perm_spans_build set, innermostWhere_eq_none_iff, fun c hc => ?_⟩
  obtain ⟨j, hj, hleast⟩ := exists_of_innermostWhere hc
  obtain ⟨hwalk, hcontainer⟩ := mem_containers.1 hj
  refine ⟨hcontainer, fun q hq hcq => ?_⟩
  obtain ⟨k, hk⟩ := hq.exists_mem
  have hbefore := rank_eq_lt_of_surrounds h hwalk (mem_containers.1 hk).1 hcq
  have hle := hleast (k, q) hk
  rw [← rank_swap, hbefore] at hle
  cases hle

/-- A class, a structure that covers as much of it as it does, and a twin of the structure. -/
def twinSet : SpanSet := .ofListKeepFirst
  [⟨"C", "CLASS_DECL", "Cpp", .lines 2 2, ⟨⟨2, 0⟩, ⟨10, 5⟩⟩, "c", none⟩,
    ⟨"S", "STRUCT_DECL", "Cpp", .lines 2 2, ⟨⟨2, 4⟩, ⟨10, 5⟩⟩, "b", none⟩,
    ⟨"S", "STRUCT_DECL", "C", .lines 2 2, ⟨⟨2, 4⟩, ⟨10, 5⟩⟩, "a", none⟩]

/-- A name in all three. -/
def twinName : Span := ⟨"v", "Field", "Cpp", .lines 5 5, .lines 5 5, "v", none⟩

/-- The structure of the smaller id is found, and the class if only classes are asked for. -/
theorem innermostWhere_twinSet :
    twinSet.Laminar ∧
      ((build twinSet).innermostWhere twinName fun _ => true).map (·.id) = some "a" ∧
      ∃ c, (build twinSet).innermostWhere twinName (·.kind = "CLASS_DECL") = some c ∧
        c.id = "c" ∧ ∀ q, (build twinSet).IsContainer twinName (·.kind = "CLASS_DECL") q →
          ¬c.body.Surrounds q.body := by
  have h : twinSet.Laminar := by decide
  have hfound : ((build twinSet).innermostWhere twinName (·.kind = "CLASS_DECL")).map (·.id) =
      some "c" := by cbv
  obtain ⟨c, hc, hid⟩ := Option.map_eq_some_iff.1 hfound
  obtain ⟨-, -, hsome⟩ := innermostWhere_build h twinName (·.kind = "CLASS_DECL")
  exact ⟨h, by cbv, c, hc, hid, (hsome c hc).2⟩

end FileForest

end SymbolAtlas
