import SymbolAtlas.Proofs.Order
import SymbolAtlas.Proofs.Parents.Comparison

/-!
# Where a cycle is entered

A chain of parents that leads into a cycle enters it at one id (`Enters`), and a walk along it comes
back to that id first, so it cuts the link of the cycle that leads there (`cut_follow`). Of all ids
that lead into a cycle only the first in id order walks round it. Which link of a cycle is cut is
thus told by where the chain from this id enters (`mem_cycleCuts_iff`); the id may be off the cycle.
-/

namespace SymbolAtlas.Index

open Std

variable {ix : Index} {c : Set String} {a b e k : String}

/-! ## Chains into a cycle -/

/-- The chain of parents from `a` meets the ids of `c` at `e` first. -/
inductive Enters (ix : Index) (c : Set String) : String → String → Prop
  | on {e : String} (h : e ∈ c) : Enters ix c e e
  | up {a b e : String} (ha : a ∉ c) (hl : ix.ParentLink a b) (h : Enters ix c b e) :
    Enters ix c a e

/-- The chain of parents from `a` comes to the ids of `c`. -/
def LeadsInto (ix : Index) (c : Set String) (a : String) : Prop := ∃ e, ix.Enters c a e

theorem Enters.mem (h : ix.Enters c a e) : e ∈ c := by
  induction h with
  | on h => exact h
  | up _ _ _ ih => exact ih

theorem Enters.unique {d : String} (h : ix.Enters c a d) (h' : ix.Enters c a e) : d = e := by
  induction h with
  | on h =>
    cases h' with
    | on _ => rfl
    | up ha _ _ => exact absurd h ha
  | up ha hl _ ih =>
    cases h' with
    | on h => exact absurd h ha
    | up _ hl' h' => exact ih (hl.unique hl' ▸ h')

theorem Enters.ascends (h : ix.Enters c a e) : a = e ∨ ix.Ascends a e := by
  induction h with
  | on _ => exact .inl rfl
  | up _ hl _ ih =>
    rcases ih with rfl | ih
    · exact .inr (.single hl)
    · exact .inr (.head hl ih)

theorem Enters.mem_of_onCycle (h : ix.Enters c a e) (hc : ix.IsCycle c) (ha : ix.OnCycle a) :
    a ∈ c := by
  rcases h.ascends with rfl | hae
  · exact h.mem
  · exact (hc.mem_iff h.mem).2 (hae.back ha)

theorem LeadsInto.known (h : ix.LeadsInto c a) (hc : ix.IsCycle c) : a ∈ ix.ids := by
  obtain ⟨e, h⟩ := h
  rcases h.ascends with rfl | h'
  · exact Ascends.known (hc.onCycle h.mem)
  · exact h'.known

/-- An id leads into a cycle exactly if its parent does. -/
theorem IsCycle.leadsInto_iff (hc : ix.IsCycle c) (hl : ix.ParentLink a b) :
    ix.LeadsInto c a ↔ ix.LeadsInto c b := by
  by_cases ha : a ∈ c
  · have hb : b ∈ c := (hc.mem_iff ha).2 (.single hl)
    exact iff_of_true ⟨a, .on ha⟩ ⟨b, .on hb⟩
  · refine ⟨?_, fun ⟨e, h⟩ => ⟨e, .up ha hl h⟩⟩
    rintro ⟨e, h⟩
    cases h with
    | on h => exact absurd h ha
    | up _ hl' h => exact ⟨e, hl.unique hl' ▸ h⟩

/-! ## The walk into a cycle -/

section Walk
variable {settled : KeySet String} {path : List String} {id : String}

theorem follow_up {p : String} (hs : id ∉ settled) (hr : id ∉ path) (hl : ix.ParentLink id p)
    (fuel : Nat) :
    ix.follow settled (fuel + 1) path id = ix.follow settled fuel (id :: path) p := by
  have hs : ¬settled.contains id = true := hs
  have hr : ¬path.contains id = true := by simpa using hr
  have hp : ix.parent? id = some p := hl
  rw [follow, if_neg hs, if_neg hr, hp]

theorem follow_return (hs : id ∉ settled) (hr : id ∈ path) (fuel : Nat) :
    ix.follow settled (fuel + 1) path id = ⟨path, path.head?⟩ := by
  have hs : ¬settled.contains id = true := hs
  have hr : path.contains id = true := by simpa using hr
  rw [follow, if_neg hs, if_pos hr]

/-- What is above a walk that has come back to its path is on the path. -/
theorem Walk.mem_of_ascends (hw : ix.Walk settled path id) (hr : id ∈ path)
    (h : ix.Ascends id b) : b ∈ path := by
  have hclosed : ∀ x ∈ path, ∀ p, ix.ParentLink x p → p ∈ path := fun x hx p hp =>
    (hw.follows x hx p hp).elim (fun h => h) fun h => h ▸ hr
  induction h with
  | single hl => exact hclosed _ hr _ hl
  | tail _ hl ih => exact hclosed _ ih _ hl

variable (hc : ix.IsCycle c) (hfresh : ∀ x ∈ c, x ∉ settled) (hk : k ∈ c) (hl : ix.ParentLink k e)
include hc hfresh hk hl

/-- A walk that entered a cycle at `e` goes round until it cuts the link that leads to `e`. It does
not come back before: then all of the cycle would be on its path. -/
theorem cut_follow_round (fuel : Nat) : ∀ {path id}, ix.Walk settled path id →
    ix.size < path.length + fuel → id ∈ c → e ∈ id :: path → k ∉ path →
      (ix.follow settled fuel path id).cut = some k := by
  induction fuel with
  | zero =>
    intro path id hw hf
    have := hw.length_le
    omega
  | succ fuel ih =>
    intro path id hw hf hid he hkp
    have hr : id ∉ path := fun hr => hkp (hw.mem_of_ascends hr ((hc.mem_iff hid).1 hk))
    obtain ⟨p, hp, hlp⟩ := hc.exists_link_from hid
    have hpush := hw.push (hfresh id hid) hr hlp
    have hf : ix.size < (id :: path).length + fuel := by
      rw [List.length_cons]
      omega
    rw [follow_up (hfresh id hid) hr hlp]
    by_cases hidk : id = k
    · subst hidk
      obtain rfl := hlp.unique hl
      cases fuel with
      | zero =>
        have := hpush.length_le
        omega
      | succ fuel =>
        rw [follow_return (hfresh p hp) he]
        rfl
    · exact ih hpush hf hp (List.mem_cons_of_mem _ he) (by simp [Ne.symm hidk, hkp])

/-- A walk that leads into a cycle cuts the link of the cycle that leads to where it enters. -/
theorem cut_follow (hs : ix.ClosedUp settled) (h : ix.Enters c a e) : ∀ {fuel path},
    ix.Walk settled path a → ix.size < path.length + fuel → k ∉ path →
      (ix.follow settled fuel path a).cut = some k := by
  induction h with
  | on he =>
    intro fuel path hw hf hkp
    exact cut_follow_round hc hfresh hk hl fuel hw hf he (List.mem_cons_self ..) hkp
  | @up a b e ha hab h ih =>
    intro fuel path hw hf hkp
    have hae : ix.Ascends a e := (Enters.up ha hab h).ascends.resolve_left fun heq =>
      ha (heq ▸ h.mem)
    have hfree : a ∉ settled := fun hm => hfresh e h.mem (hs.ascends hm hae)
    have hr : a ∉ path := fun hr =>
      ha ((Enters.up ha hab h).mem_of_onCycle hc (hw.leads a hr))
    cases fuel with
    | zero =>
      have := hw.length_le
      omega
    | succ fuel =>
      rw [follow_up hfree hr hab]
      refine ih hl (hw.push hfree hr hab) ?_ ?_
      · rw [List.length_cons]
        omega
      · rintro (_ | ⟨_, hm⟩)
        · exact ha hk
        · exact hkp hm

end Walk

/-! ## The first id that leads into a cycle -/

/-- `a` is the first of these ids. -/
def IsFirst (s : Set String) (a : String) : Prop := a ∈ s ∧ ∀ b ∈ s, b ≠ a → compare a b = .lt

theorem IsFirst.unique {s : Set String} (h : IsFirst s a) (h' : IsFirst s b) : a = b := by
  by_contra hne
  have hlt := h.2 b h'.1 (Ne.symm hne)
  rw [OrientedCmp.gt_of_lt (h'.2 a h.1 hne)] at hlt
  cases hlt

theorem exists_isFirst {s : Set String} (hs : ∀ b ∈ s, b ∈ ix.ids) (ha : a ∈ s) :
    ∃ m, IsFirst s m := by
  classical
  have hsome : (ix.ids.find? (· ∈ s)).isSome = true :=
    List.find?_isSome.2 ⟨a, hs a ha, decide_eq_true ha⟩
  obtain ⟨m, hm⟩ := Option.isSome_iff_exists.1 hsome
  refine ⟨m, by simpa using List.find?_some hm, fun b hb hne => ?_⟩
  have hordered : ix.ids.Pairwise fun a b => b ≠ a → compare a b = .lt :=
    List.Pairwise.imp (fun {a b} h (_ : b ≠ a) => h) (ascending_ids ix)
  exact le_of_find? (fun _ h => absurd rfl h) hordered hm (hs b hb) (decide_eq_true hb) hne

/-- No id before the first of some ids is one of them. -/
theorem IsFirst.exists_split {s : Set String} (h : IsFirst s a) (ha : a ∈ ix.ids) :
    ∃ before after, ix.ids = before ++ a :: after ∧ ∀ b ∈ before, b ∉ s := by
  obtain ⟨before, after, hids⟩ := List.append_of_mem ha
  refine ⟨before, after, hids, fun b hb hbs => ?_⟩
  have hasc := hids ▸ ascending_ids ix
  have hba : compare b a = .lt := (List.pairwise_append.1 hasc).2.2 b hb a (List.mem_cons_self ..)
  have hne : b ≠ a := by
    rintro rfl
    rw [ReflOrd.compare_self] at hba
    cases hba
  rw [OrientedCmp.gt_of_lt (h.2 b hbs hne)] at hba
  cases hba

/-- Walks that do not lead into a cycle leave it as it is. -/
theorem IsCycle.fresh_run (hc : ix.IsCycle c) {l : List String} (hl : ∀ b ∈ l, ¬ix.LeadsInto c b) :
    ∀ x ∈ c, x ∉ (l.foldl ix.surveyFrom ⟨∅, []⟩).settled := by
  classical
  have hpart : AgreeOn (ix.LeadsInto c) ix ix :=
    ⟨fun _ _ => rfl, fun _ _ => hc.leadsInto_iff, fun _ _ => hc.leadsInto_iff⟩
  have hempty : Survey.AgreeOn (ix.LeadsInto c) ⟨∅, []⟩ ⟨∅, []⟩ := ⟨fun _ _ => .rfl, rfl⟩
  have hrun := hpart.run_filter l hempty
  have hnone : l.filter (ix.LeadsInto c) = [] := by simpa using hl
  rw [hnone] at hrun
  intro x hx hm
  exact KeySet.not_mem_empty x ((hrun.settled x ⟨x, .on hx⟩).1 hm)

/-- The chain from the first id that leads into a cycle enters it at `e`, and the link to `e` is the
one that is cut. -/
theorem mem_cycleCuts_iff (hc : ix.IsCycle c) (ha : IsFirst {b | ix.LeadsInto c b} a)
    (he : ix.Enters c a e) (hk : k ∈ c) : k ∈ ix.cycleCuts ↔ ix.ParentLink k e := by
  have hcut : ∀ {l}, l ∈ c → ix.ParentLink l e → l ∈ ix.cycleCuts := by
    intro l hlc hl
    obtain ⟨before, after, hids, hbefore⟩ := ha.exists_split (LeadsInto.known ⟨e, he⟩ hc)
    have hsound := (Survey.Sound.run before (Survey.Sound.empty ix)).1
    have htrail : (ix.follow (before.foldl ix.surveyFrom ⟨∅, []⟩).settled (ix.size + 2) [] a).cut =
        some l :=
      cut_follow hc (hc.fresh_run hbefore) hlc hl hsound.closed he (Walk.start ..) (by simp)
        List.not_mem_nil
    rw [cycleCuts, hids, List.foldl_append, List.foldl_cons]
    exact cuts_run after (List.mem_append_right _ (Option.mem_toList.2 htrail))
  refine ⟨fun hkcut => ?_, hcut hk⟩
  obtain ⟨l, hlc, hl⟩ := hc.exists_link_to he.mem
  obtain rfl := ((cycleCuts_cutsCycles ix).existsUnique hc).unique ⟨hk, hkcut⟩ ⟨hlc, hcut hlc hl⟩
  exact hl

end SymbolAtlas.Index
