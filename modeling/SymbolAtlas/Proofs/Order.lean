import Mathlib.Data.List.Basic
import SymbolAtlas.Index.Merge
import SymbolAtlas.Proofs.Table

/-!
# Lists in order

A list in order is determined by how often it holds each item (`InOrder.eq_of_count`). One without
repetitions is determined by its items alone (`Ascending.eq_of_mem_iff`), so lists of pairs merge
as sets do (`mergeRelations_eq`).
-/

namespace SymbolAtlas

open Std

variable {α : Type}

/-- A stable sort puts the first item before everything that it is not above. -/
theorem mergeSort_cons_split {le : α → α → Bool} (trans : ∀ a b c, le a b → le b c → le a c)
    (total : ∀ a b, le a b || le b a) (a : α) (l : List α) :
    ∃ before after, (a :: l).mergeSort le = before ++ a :: after ∧
      l.mergeSort le = before ++ after ∧
      (∀ b ∈ before, le a b = false) ∧ ∀ b ∈ after, le a b = true := by
  obtain ⟨before, after, hcons, hl, hbefore⟩ := List.mergeSort_cons trans total a l
  have hsorted := hcons ▸ List.pairwise_mergeSort trans total (a :: l)
  have hafter := (List.pairwise_cons.1 (List.pairwise_append.1 hsorted).2.1).1
  exact ⟨before, after, hcons, hl, fun b hb => by simpa using hbefore b hb, hafter⟩

/-- A stable sort leaves what it does not tell apart in the order it was in. -/
theorem pairwise_mergeSort_of_pairwise {le : α → α → Bool}
    (trans : ∀ a b c, le a b → le b c → le a c) (total : ∀ a b, le a b || le b a)
    {R : α → α → Prop} {l : List α} (h : l.Pairwise R) :
    (l.mergeSort le).Pairwise fun a b => le a b = true ∧ (le b a = true → R a b) := by
  induction l with
  | nil => simp
  | cons a l ih =>
    obtain ⟨ha, hl⟩ := List.pairwise_cons.1 h
    obtain ⟨before, after, hcons, hsort, hbefore, hafter⟩ := mergeSort_cons_split trans total a l
    have hsorted := ih hl
    rw [hsort, List.pairwise_append] at hsorted
    obtain ⟨hb, hs, hcross⟩ := hsorted
    have hlast : ∀ b ∈ before, le b a = true ∧ (le a b = true → R b a) := by
      intro b hmem
      have hnot := hbefore b hmem
      exact ⟨by simpa [hnot] using total a b, by simp [hnot]⟩
    have hfirst : ∀ b ∈ after, le a b = true ∧ (le b a = true → R a b) := by
      intro b hmem
      have hm : b ∈ l := List.mem_mergeSort.1 (hsort ▸ List.mem_append_right before hmem)
      exact ⟨hafter b hmem, fun _ => ha b hm⟩
    rw [hcons, List.pairwise_append, List.pairwise_cons]
    refine ⟨hb, ⟨hfirst, hs⟩, fun b hmem d hd => ?_⟩
    rcases List.mem_cons.1 hd with rfl | hd
    · exact hlast b hmem
    · exact hcross b hmem d hd

/-- What is found in a list in order comes before all else that could have been found. -/
theorem le_of_find? {R : α → α → Prop} (hrefl : ∀ a, R a a) {l : List α} (hl : l.Pairwise R)
    {P : α → Bool} {a b : α} (h : l.find? P = some a) (hb : b ∈ l) (hP : P b = true) : R a b := by
  obtain ⟨-, before, after, rfl, hbefore⟩ := List.find?_eq_some_iff_append.1 h
  rcases List.mem_append.1 hb with hb | hb
  · have hnot := hbefore b hb
    simp [hP] at hnot
  · rcases List.mem_cons.1 hb with rfl | hb
    · exact hrefl b
    · exact (List.pairwise_cons.1 (List.pairwise_append.1 hl).2.1).1 b hb

section Sorting
variable [Ord α]

/-- No item comes before an earlier one. -/
def InOrder (l : List α) : Prop := l.Pairwise fun a b => notAfter a b = true

/-- Every item comes after the earlier ones. -/
def Ascending (l : List α) : Prop := l.Pairwise fun a b => compare a b = .lt

instance (l : List α) : Decidable (InOrder l) := inferInstanceAs (Decidable (List.Pairwise _ l))

theorem notAfter_iff {a b : α} : notAfter a b = true ↔ (compare a b).isLE = true := by
  rw [notAfter, decide_eq_true_eq, Ordering.isLE_iff_ne_gt]

variable [TransOrd α]

theorem notAfter_trans (a b d : α) (h : notAfter a b = true) (h' : notAfter b d = true) :
    notAfter a d = true := by
  rw [notAfter_iff] at *
  exact TransCmp.isLE_trans h h'

theorem notAfter_total (a b : α) : (notAfter a b || notAfter b a) = true := by
  rw [Bool.or_eq_true, notAfter_iff, notAfter_iff]
  cases h : compare a b with
  | lt => exact .inl rfl
  | eq => exact .inl rfl
  | gt => exact .inr (by rw [OrientedCmp.lt_of_gt h]; rfl)

theorem inOrder_mergeSort (l : List α) : InOrder (l.mergeSort notAfter) :=
  List.pairwise_mergeSort notAfter_trans notAfter_total l

theorem mergeSort_eq_self_iff {l : List α} : l.mergeSort notAfter = l ↔ InOrder l :=
  ⟨fun h => h ▸ inOrder_mergeSort l, List.mergeSort_of_pairwise⟩

theorem InOrder.eq_of_perm [LawfulEqOrd α] {l m : List α} (hl : InOrder l) (hm : InOrder m)
    (h : l.Perm m) : l = m := by
  refine List.Perm.eq_of_pairwise (fun a b _ _ hab hba => ?_) hl hm h
  rw [notAfter_iff] at hab hba
  exact LawfulEqCmp.eq_of_compare (OrientedCmp.isLE_antisymm hab hba)

theorem InOrder.eq_of_count [LawfulEqOrd α] [DecidableEq α] {l m : List α} (hl : InOrder l)
    (hm : InOrder m) (h : ∀ a, l.count a = m.count a) : l = m :=
  hl.eq_of_perm hm (List.perm_iff_count.2 h)

/-- What is sorted does not show the order it was in. -/
theorem mergeSort_eq_of_perm [LawfulEqOrd α] {l m : List α} (h : l.Perm m) :
    l.mergeSort notAfter = m.mergeSort notAfter :=
  (inOrder_mergeSort l).eq_of_perm (inOrder_mergeSort m)
    (((List.mergeSort_perm l _).trans h).trans (List.mergeSort_perm m _).symm)

theorem Ascending.eq_of_mem_iff {l m : List α} (hl : Ascending l) (hm : Ascending m)
    (h : ∀ a, a ∈ l ↔ a ∈ m) : l = m := by
  have hkeys : l.map (fun a => (a, ())) = m.map fun a => (a, ()) := by
    refine Table.eq_of_mem_iff (List.pairwise_map.2 hl) (List.pairwise_map.2 hm) fun e => ?_
    simp [Prod.ext_iff, h]
  exact List.map_injective_iff.2 (fun a b e => (Prod.mk.inj e).1) hkeys

end Sorting

/-! ## Without repetitions -/

theorem eraseRepsBy_loop (r : α → α → Bool) (a : α) (l acc : List α) :
    List.eraseRepsBy.loop r a l acc = acc.reverse ++ List.eraseRepsBy.loop r a l [] := by
  induction l generalizing a acc with
  | nil => simp [List.eraseRepsBy.loop]
  | cons b l ih =>
    unfold List.eraseRepsBy.loop
    split
    · exact ih a acc
    · rw [ih, ih b [a]]
      simp

section Repetitions
variable [DecidableEq α]

theorem eraseReps_cons_cons (a b : α) (l : List α) :
    (a :: b :: l).eraseReps = if a = b then (b :: l).eraseReps else a :: (b :: l).eraseReps := by
  simp only [List.eraseReps, List.eraseRepsBy]
  rw [List.eraseRepsBy.loop]
  split
  · next h => rw [eq_of_beq h, if_pos rfl]
  · next h =>
    rw [if_neg (beq_eq_false_iff_ne.1 h), eraseRepsBy_loop]
    rfl

theorem mem_eraseReps {x : α} : ∀ {l : List α}, x ∈ l.eraseReps ↔ x ∈ l
  | [] => Iff.rfl
  | [_] => Iff.rfl
  | a :: b :: l => by
    have ih := mem_eraseReps (x := x) (l := b :: l)
    rw [eraseReps_cons_cons]
    split
    · next h =>
      rw [ih, h]
      simp
    · rw [List.mem_cons, ih, ← List.mem_cons]

theorem ascending_eraseReps [Ord α] [TransOrd α] [LawfulEqOrd α] :
    ∀ {l : List α}, InOrder l → Ascending l.eraseReps
  | [], _ => .nil
  | [a], _ => List.pairwise_singleton _ a
  | a :: b :: l, h => by
    obtain ⟨ha, h⟩ := List.pairwise_cons.1 h
    rw [eraseReps_cons_cons]
    split
    · exact ascending_eraseReps h
    · next hne =>
      have hle := notAfter_iff.1 (ha b (List.mem_cons_self ..))
      have hab : compare a b = .lt := by
        cases hc : compare a b with
        | lt => rfl
        | eq => exact absurd (LawfulEqCmp.eq_of_compare hc) hne
        | gt => rw [hc] at hle; cases hle
      refine List.pairwise_cons.2 ⟨fun x hx => ?_, ascending_eraseReps h⟩
      rcases List.mem_cons.1 (mem_eraseReps.1 hx) with rfl | hx
      · exact hab
      · exact TransCmp.lt_of_lt_of_isLE hab (notAfter_iff.1 ((List.pairwise_cons.1 h).1 x hx))

end Repetitions

/-! ## Pairs -/

theorem KeySet.ascending_toList [Ord α] (s : KeySet α) : Ascending s.toList :=
  List.pairwise_map.2 s.table.ascending

/-- Merged lists of pairs list the set of the pairs of both. -/
theorem mergeRelations_eq (a b : List Relation) :
    mergeRelations a b = (KeySet.ofList (a ++ b)).toList := by
  refine (ascending_eraseReps (inOrder_mergeSort (a ++ b))).eq_of_mem_iff
    (KeySet.ascending_toList _) fun r => ?_
  rw [mem_eraseReps, List.mem_mergeSort, KeySet.mem_toList, KeySet.mem_ofList]

theorem mem_mergeRelations {a b : List Relation} {r : Relation} :
    r ∈ mergeRelations a b ↔ r ∈ a ∨ r ∈ b := by
  rw [mergeRelations_eq, KeySet.mem_toList, KeySet.mem_ofList, List.mem_append]

theorem mergeRelations_congr {a b c d : List Relation}
    (h : ∀ r, r ∈ a ∨ r ∈ b ↔ r ∈ c ∨ r ∈ d) : mergeRelations a b = mergeRelations c d := by
  rw [mergeRelations_eq, mergeRelations_eq]
  refine congrArg KeySet.toList (KeySet.ext_mem fun r => ?_)
  rw [KeySet.mem_ofList, KeySet.mem_ofList, List.mem_append, List.mem_append, h]

theorem mergeRelations_assoc (a b c : List Relation) :
    mergeRelations (mergeRelations a b) c = mergeRelations a (mergeRelations b c) :=
  mergeRelations_congr fun r => by rw [mem_mergeRelations, mem_mergeRelations, or_assoc]

theorem mergeRelations_comm (a b : List Relation) : mergeRelations a b = mergeRelations b a :=
  mergeRelations_congr fun _ => or_comm

/-- Merging pairs once more that are there already changes nothing. -/
theorem mergeRelations_mergeRelations (a b : List Relation) :
    mergeRelations (mergeRelations a b) b = mergeRelations a b :=
  mergeRelations_congr fun r => by rw [mem_mergeRelations, or_assoc, or_self]

end SymbolAtlas
