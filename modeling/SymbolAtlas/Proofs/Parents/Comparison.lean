import Mathlib.Data.List.Nodup
import SymbolAtlas.Proofs.Index
import SymbolAtlas.Proofs.Parents.Survey

/-!
# Cutting cycles in two indexes

A walk along parents sees little of an index, so walks over two indexes can be compared. Links that
are cut anyway may be left out before (`breakCycles_foldl_orphan`). Where two indexes have the same
parents on a part that no link leads into or out of, the same links of it are cut
(`AgreeOn.parent?_breakCycles`), whatever there is beside the part.
-/

namespace SymbolAtlas

namespace Index

variable {ix jx : Index} {settled : KeySet String} {path : List String} {id k : String}

/-! ## Leaving out cuts -/

/-- A walk goes on from its path, meets nothing twice and cuts where it came last. -/
theorem follow_visited (ix : Index) (settled : KeySet String) (id : String) (fuel : Nat)
    (hn : path.Nodup) :
    (∃ front, (ix.follow settled fuel path id).visited = front ++ path) ∧
      (ix.follow settled fuel path id).visited.Nodup ∧
      ∀ k, (ix.follow settled fuel path id).cut = some k →
        (ix.follow settled fuel path id).visited.head? = some k := by
  induction fuel generalizing path id with
  | zero => exact ⟨⟨[], rfl⟩, hn, by simp [follow]⟩
  | succ fuel ih =>
    unfold follow
    split
    · exact ⟨⟨[], rfl⟩, hn, by simp⟩
    · split
      · exact ⟨⟨[], rfl⟩, hn, fun _ h => h⟩
      · next hr =>
        have hr : id ∉ path := by simpa using hr
        have hpush : (id :: path).Nodup := List.nodup_cons.2 ⟨hr, hn⟩
        split
        · exact ⟨⟨[id], rfl⟩, hpush, by simp⟩
        · next p _ =>
          obtain ⟨⟨front, hfront⟩, hnodup, hcut⟩ := ih p hpush
          exact ⟨⟨front ++ [id], by rw [hfront, List.append_assoc]; rfl⟩, hnodup, hcut⟩

/-- A walk that cuts where it stands goes no further. -/
theorem follow_visited_of_cut (fuel : Nat) (hn : (k :: path).Nodup)
    (hcut : (ix.follow settled fuel (k :: path) id).cut = some k) :
    (ix.follow settled fuel (k :: path) id).visited = k :: path := by
  obtain ⟨⟨front, hfront⟩, hnodup, hhead⟩ := follow_visited ix settled id fuel hn
  have hhead := hhead k hcut
  rw [hfront] at hnodup hhead ⊢
  cases front with
  | nil => rfl
  | cons a front =>
    obtain rfl : a = k := by simpa using hhead
    simp at hnodup

/-- Where the only links left out are cut by the walk itself, the walk meets the same ids. -/
theorem follow_of_leftOut {cuts : List String}
    (hj : ∀ id, jx.parent? id = if id ∈ cuts then none else ix.parent? id) (fuel : Nat)
    (hn : path.Nodup) (hpath : ∀ x ∈ path, x ∉ cuts)
    (hcut : ∀ k ∈ (ix.follow settled fuel path id).visited, k ∈ cuts →
      (ix.follow settled fuel path id).cut = some k) :
    jx.follow settled fuel path id = ⟨(ix.follow settled fuel path id).visited,
      (ix.follow settled fuel path id).cut.filter fun k => k ∉ cuts⟩ := by
  induction fuel generalizing path id with
  | zero => rfl
  | succ fuel ih =>
    unfold follow at hcut ⊢
    by_cases hs : settled.contains id = true
    · simp only [if_pos hs]
      rfl
    · simp only [if_neg hs] at hcut ⊢
      by_cases hr : path.contains id = true
      · simp only [if_pos hr]
        cases hhead : path.head? with
        | none => rfl
        | some k => simp [Option.filter, hpath k (List.mem_of_head? hhead)]
      · simp only [if_neg hr, hj id] at hcut ⊢
        have hpush : (id :: path).Nodup := List.nodup_cons.2 ⟨by simpa using hr, hn⟩
        cases hp : ix.parent? id with
        | none => simp
        | some p =>
          simp only [hp] at hcut ⊢
          by_cases hc : id ∈ cuts
          · obtain ⟨⟨front, hfront⟩, -⟩ := follow_visited ix settled p fuel hpush
            have hk := hcut id (by rw [hfront]; simp) hc
            rw [follow_visited_of_cut fuel hpush hk, hk]
            simp [Option.filter, hc]
          · simp only [if_neg hc]
            exact ih hpush (by simpa [hc] using hpath) hcut

/-- What is cut stays cut. -/
theorem cuts_run (l : List String) : ∀ {s : Survey}, k ∈ s.cuts →
    k ∈ (l.foldl ix.surveyFrom s).cuts := by
  induction l with
  | nil => exact fun h => h
  | cons a l ih => exact fun h => ih (List.mem_append_left _ h)

/-- Where the only links left out are cut in the end, the survey of what is left cuts the others. As
a cycle is cut once, an id without its link that a walk meets is what this walk cuts. -/
theorem survey_of_leftOut {cuts : List String} (hsize : jx.size = ix.size)
    (hj : ∀ id, jx.parent? id = if id ∈ cuts then none else ix.parent? id) (l : List String) :
    ∀ {s t : Survey}, s.Sound ix → (∀ k ∈ cuts, k ∈ (l.foldl ix.surveyFrom s).cuts) →
      t.settled = s.settled → t.cuts = s.cuts.filter (fun k => k ∉ cuts) →
      (l.foldl jx.surveyFrom t).cuts =
        (l.foldl ix.surveyFrom s).cuts.filter fun k => k ∉ cuts := by
  induction l with
  | nil => exact fun _ _ _ h => h
  | cons start l ih =>
    intro s t hs hcuts hsettled hfilter
    have hfinal := (Survey.Sound.run l (hs.step start).1).1
    have htrail := (follow_closes hs.closed (ix.size + 2) (Walk.start ix s.settled start)
      (by simp only [List.length_nil]; omega)).1
    have hmet : ∀ k ∈ (ix.follow s.settled (ix.size + 2) [] start).visited, k ∈ cuts →
        (ix.follow s.settled (ix.size + 2) [] start).cut = some k := by
      intro k hk hc
      have hkcut := hcuts k hc
      obtain ⟨m, hm, hkm⟩ := htrail.met k hk (hfinal.cut k hkcut).2
      have hmcut : m ∈ (l.foldl ix.surveyFrom (ix.surveyFrom s start)).cuts :=
        cuts_run l (List.mem_append_right _ (Option.mem_toList.2 hm))
      rw [hm, hfinal.single k hkcut m hmcut hkm]
    have hmirror := follow_of_leftOut hj (ix.size + 2) List.nodup_nil (by simp) hmet
    refine ih (hs.step start).1 hcuts ?_ ?_
    · simp only [surveyFrom, hsettled, hsize, hmirror]
    · simp only [surveyFrom, hsettled, hsize, hmirror, hfilter, List.filter_append]
      congr 1
      cases (ix.follow s.settled (ix.size + 2) [] start).cut with
      | none => rfl
      | some m => by_cases h : m ∈ cuts <;> simp [h]

/-! ## Orphans -/

theorem size_foldl_orphan (l : List String) (ix : Index) : (l.foldl orphan ix).size = ix.size := by
  have h := congrArg List.length (ids_foldl_orphan l ix)
  rwa [ids, ids, Table.keys, Table.keys, List.length_map, List.length_map] at h

/-- Which links are left out depends on the ids alone. -/
theorem foldl_orphan_congr {l m : List String} (h : ∀ id, id ∈ l ↔ id ∈ m) :
    l.foldl orphan ix = m.foldl orphan ix := by
  refine ext_get? (fun id => ?_) ((foldl_orphan_rest l ix).trans (foldl_orphan_rest m ix).symm)
  simp only [get?_foldl_orphan, h]

/-- Links that are cut anyway may be left out before cycles are looked for. -/
theorem breakCycles_foldl_orphan {cuts : List String} (h : ∀ k ∈ cuts, k ∈ ix.cycleCuts) :
    (cuts.foldl orphan ix).breakCycles = ix.breakCycles := by
  have hrest : (cuts.foldl orphan ix).cycleCuts = ix.cycleCuts.filter fun k => k ∉ cuts := by
    unfold cycleCuts
    rw [ids_foldl_orphan]
    exact survey_of_leftOut (size_foldl_orphan cuts ix) (fun id => parent?_foldl_orphan id cuts ix)
      ix.ids (Survey.Sound.empty ix) h rfl rfl
  rw [breakCycles, breakCycles, hrest, ← List.foldl_append]
  refine foldl_orphan_congr fun id => ?_
  by_cases hid : id ∈ cuts
  · simp [hid, h id hid]
  · simp [hid]

/-! ## Parts that agree -/

/-- Two indexes have the same parents on a part, and no parent leads into it or out of it. -/
structure AgreeOn (part : String → Prop) (ix jx : Index) : Prop where
  parent : ∀ id, part id → ix.parent? id = jx.parent? id
  closed : ∀ a b, ix.ParentLink a b → (part a ↔ part b)
  closed' : ∀ a b, jx.ParentLink a b → (part a ↔ part b)

variable {part : String → Prop} {settled' : KeySet String}

theorem AgreeOn.follow_eq (h : AgreeOn part ix jx)
    (hs : ∀ id, part id → (id ∈ settled ↔ id ∈ settled')) (fuel : Nat) : ∀ {fuel' path id},
    ix.Walk settled path id → jx.Walk settled' path id → ix.size < path.length + fuel →
      jx.size < path.length + fuel' → part id →
      ix.follow settled fuel path id = jx.follow settled' fuel' path id := by
  induction fuel with
  | zero =>
    intro fuel' path id hw _ hf
    have := hw.length_le
    omega
  | succ fuel ih =>
    intro fuel' path id hw hw' hf hf' hid
    cases fuel' with
    | zero =>
      have := hw'.length_le
      omega
    | succ fuel' =>
      have hsid : settled.contains id = settled'.contains id := Bool.eq_iff_iff.2 (hs id hid)
      unfold follow
      rw [← hsid, ← h.parent id hid]
      split
      · rfl
      · next hns =>
        split
        · rfl
        · next hr =>
          split
          · rfl
          · next p hp =>
            have hr : id ∉ path := by simpa using hr
            have hns' : id ∉ settled' := fun hm => hns ((hs id hid).2 hm)
            have hp' : jx.parent? id = some p := (h.parent id hid).symm.trans hp
            refine ih (hw.push hns hr hp) (hw'.push hns' hr hp') ?_ ?_ ((h.closed id p hp).1 hid)
            all_goals simp only [List.length_cons]; omega

/-- A walk that starts outside of a part stays outside. -/
theorem follow_outside (h : ∀ a b, ix.ParentLink a b → (part a ↔ part b)) (fuel : Nat) :
    ∀ {path id}, (∀ x ∈ path, ¬part x) → ¬part id →
      ∀ x ∈ (ix.follow settled fuel path id).visited, ¬part x := by
  induction fuel with
  | zero => exact fun hpath _ => hpath
  | succ fuel ih =>
    intro path id hpath hid
    have hpush : ∀ x ∈ id :: path, ¬part x := by simpa [hid] using hpath
    unfold follow
    split
    · exact hpath
    · split
      · exact hpath
      · split
        · exact hpush
        · next p hp => exact ih hpush fun hpp => hid ((h id p hp).2 hpp)

/-- The surveys of two indexes have covered the same ground of a part and cut the same links there. -/
structure Survey.AgreeOn (part : String → Prop) [DecidablePred part] (s t : Survey) : Prop where
  settled : ∀ id, part id → (id ∈ s.settled ↔ id ∈ t.settled)
  cuts : s.cuts.filter part = t.cuts.filter part

section Surveys
variable [DecidablePred part] {s t u : Survey}

theorem Survey.AgreeOn.symm (h : s.AgreeOn part t) : t.AgreeOn part s :=
  ⟨fun id hid => (h.settled id hid).symm, h.cuts.symm⟩

theorem Survey.AgreeOn.trans (h : s.AgreeOn part t) (h' : t.AgreeOn part u) :
    s.AgreeOn part u :=
  ⟨fun id hid => (h.settled id hid).trans (h'.settled id hid), h.cuts.trans h'.cuts⟩

/-- What a walk cuts it has visited. -/
theorem mem_visited_of_cut (ix : Index) (settled : KeySet String) (fuel : Nat)
    (h : (ix.follow settled fuel [] id).cut = some k) :
    k ∈ (ix.follow settled fuel [] id).visited :=
  List.mem_of_head? ((follow_visited ix settled id fuel List.nodup_nil).2.2 k h)

/-- A walk outside of a part changes nothing on it. -/
theorem agreeOn_surveyFrom_of_outside (h : ∀ a b, ix.ParentLink a b → (part a ↔ part b))
    (s : Survey) {start : String} (hstart : ¬part start) :
    (ix.surveyFrom s start).AgreeOn part s := by
  have hout : ∀ x ∈ (ix.follow s.settled (ix.size + 2) [] start).visited, ¬part x :=
    follow_outside h _ (by simp) hstart
  refine ⟨fun id hid => ?_, ?_⟩
  · rw [surveyFrom, KeySet.mem_insertAll]
    exact or_iff_right fun hm => hout id hm hid
  · simp only [surveyFrom, List.filter_append]
    cases hc : (ix.follow s.settled (ix.size + 2) [] start).cut with
    | none => simp
    | some k => simp [hout k (mem_visited_of_cut ix s.settled _ hc)]

/-- A walk on the part is the same in both. -/
theorem AgreeOn.surveyFrom (h : AgreeOn part ix jx) (hst : s.AgreeOn part t) {start : String}
    (hstart : part start) : (ix.surveyFrom s start).AgreeOn part (jx.surveyFrom t start) := by
  have htrail : ix.follow s.settled (ix.size + 2) [] start =
      jx.follow t.settled (jx.size + 2) [] start :=
    h.follow_eq hst.settled _ (.start ..) (.start ..) (by simp) (by simp) hstart
  refine ⟨fun id hid => ?_, ?_⟩
  · rw [Index.surveyFrom, Index.surveyFrom, KeySet.mem_insertAll, KeySet.mem_insertAll, htrail,
      hst.settled id hid]
  · simp only [Index.surveyFrom, List.filter_append, htrail, hst.cuts]

/-- Starts outside of the part do not count. -/
theorem AgreeOn.run_filter (h : AgreeOn part ix jx) (l : List String) : ∀ {s t : Survey},
    s.AgreeOn part t →
      (l.foldl ix.surveyFrom s).AgreeOn part ((l.filter part).foldl jx.surveyFrom t) := by
  induction l with
  | nil => exact fun hst => hst
  | cons start l ih =>
    intro s t hst
    by_cases hp : part start
    · rw [List.filter_cons_of_pos (by simpa using hp)]
      exact ih (h.surveyFrom hst hp)
    · rw [List.filter_cons_of_neg (by simpa using hp)]
      exact ih ((agreeOn_surveyFrom_of_outside h.closed s hp).trans hst)

/-- Where two indexes agree on a part, the same links of it are cut. -/
theorem AgreeOn.cycleCuts (h : AgreeOn part ix jx)
    (hids : ix.ids.filter part = jx.ids.filter part) :
    ix.cycleCuts.filter part = jx.cycleCuts.filter part := by
  have hself : AgreeOn part jx jx := ⟨fun _ _ => rfl, h.closed', h.closed'⟩
  have hempty : Survey.AgreeOn part ⟨∅, []⟩ ⟨∅, []⟩ := ⟨fun _ _ => .rfl, rfl⟩
  have hleft := h.run_filter ix.ids hempty
  have hright := hself.run_filter jx.ids hempty
  rw [hids] at hleft
  exact (hleft.trans hright.symm).cuts

/-- Where two indexes agree on a part, they have the same parents there without their cycles. -/
theorem AgreeOn.parent?_breakCycles (h : AgreeOn part ix jx)
    (hids : ix.ids.filter part = jx.ids.filter part) (hid : part id) :
    ix.breakCycles.parent? id = jx.breakCycles.parent? id := by
  have hcut : id ∈ ix.cycleCuts ↔ id ∈ jx.cycleCuts := by
    have hmem := congrArg (id ∈ ·) (h.cycleCuts hids)
    simpa [List.mem_filter, hid] using hmem
  simp only [Index.parent?_breakCycles, hcut, h.parent id hid]

end Surveys

end Index

end SymbolAtlas
