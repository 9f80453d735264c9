import SymbolAtlas.Proofs.Order

/-!
# Two descriptions of one symbol

Of two values the smaller is kept, whichever comes first, and references are united. The first
description keeps its own repetitions of a reference and gains each other reference once
(`count_unite`). So a symbol absorbs others in any grouping (`Symbol.absorb_assoc`), and the same
one a second time without a change (`Symbol.absorb_absorb`).
-/

namespace SymbolAtlas

open Std

/-! ## The smaller value -/

section Smaller
variable {α : Type} [Ord α]

def smaller (a b : α) : α := if compare a b = .gt then b else a

theorem keepMin_eq (a b : Option α) : keepMin a b = Option.merge smaller a b := by
  cases a with
  | none => cases b <;> rfl
  | some a =>
    cases b with
    | none => rfl
    | some b =>
      rw [keepMin, Option.merge_some_some, smaller]
      split <;> rfl

theorem smaller_self (a : α) : smaller a a = a := by
  rw [smaller, ite_self]

instance : IdempotentOp (smaller : α → α → α) := ⟨smaller_self⟩

theorem keepMin_self (a : Option α) : keepMin a a = a := by
  rw [keepMin_eq]
  exact IdempotentOp.idempotent a

variable [TransOrd α]

theorem smaller_assoc (a b c : α) : smaller (smaller a b) c = smaller a (smaller b c) := by
  by_cases hab : compare a b = .gt <;> by_cases hbc : compare b c = .gt
  · have hac : compare a c = .gt := TransCmp.gt_trans hab hbc
    simp only [smaller, hab, hbc, hac, if_true]
  · simp only [smaller, hab, hbc, if_true, if_false]
  · simp only [smaller, hab, hbc, if_true, if_false]
  · have hac : ¬compare a c = .gt :=
      Ordering.isLE_iff_ne_gt.1 (TransCmp.isLE_trans (Ordering.isLE_iff_ne_gt.2 hab)
        (Ordering.isLE_iff_ne_gt.2 hbc))
    simp only [smaller, hab, hbc, hac, if_false]

theorem smaller_comm [LawfulEqOrd α] (a b : α) : smaller a b = smaller b a := by
  unfold smaller
  cases h : compare a b with
  | lt => rw [OrientedCmp.gt_of_lt h, if_neg Ordering.noConfusion, if_pos rfl]
  | eq => rw [LawfulEqCmp.eq_of_compare h, ite_self, ite_self]
  | gt => rw [OrientedCmp.lt_of_gt h, if_pos rfl, if_neg Ordering.noConfusion]

instance : Associative (smaller : α → α → α) := ⟨smaller_assoc⟩

instance [LawfulEqOrd α] : Commutative (smaller : α → α → α) := ⟨smaller_comm⟩

theorem keepMin_assoc (a b c : Option α) : keepMin (keepMin a b) c = keepMin a (keepMin b c) := by
  simp only [keepMin_eq]
  exact Associative.assoc a b c

theorem keepMin_keepMin (a b : Option α) : keepMin (keepMin a b) b = keepMin a b := by
  rw [keepMin_assoc, keepMin_self]

theorem keepMin_comm [LawfulEqOrd α] (a b : Option α) : keepMin a b = keepMin b a := by
  simp only [keepMin_eq]
  exact Commutative.comm a b

end Smaller

/-! ## References -/

section References
variable {l m : List Reference}

theorem addReferences_cons (l : List Reference) (r : Reference) (m : List Reference) :
    addReferences l (r :: m) = addReferences (if l.contains r then l else l ++ [r]) m := rfl

/-- What is there already keeps its repetitions; what is new comes once. -/
theorem count_addReferences (l m : List Reference) (r : Reference) :
    (addReferences l m).count r = max (l.count r) (min 1 (m.count r)) := by
  induction m generalizing l with
  | nil => simp [addReferences]
  | cons x m ih =>
    rw [addReferences_cons, ih]
    by_cases hx : x ∈ l
    · rw [if_pos (List.contains_iff_mem.2 hx), List.count_cons]
      by_cases hr : x = r
      · have := List.count_pos_iff.2 (hr ▸ hx)
        simp only [hr, beq_self_eq_true, if_true]
        omega
      · simp [hr]
    · rw [if_neg fun h => hx (List.contains_iff_mem.1 h), List.count_append, List.count_cons]
      by_cases hr : x = r
      · have := List.count_eq_zero.2 (hr ▸ hx)
        simp [hr]
        omega
      · simp [hr]

theorem mem_addReferences {r : Reference} : r ∈ addReferences l m ↔ r ∈ l ∨ r ∈ m := by
  rw [← List.count_pos_iff, ← List.count_pos_iff, ← List.count_pos_iff, count_addReferences]
  omega

theorem addReferences_of_subset (h : ∀ r ∈ m, r ∈ l) : addReferences l m = l := by
  induction m with
  | nil => rfl
  | cons r m ih =>
    rw [addReferences_cons, if_pos (List.contains_iff_mem.2 (h r (List.mem_cons_self ..)))]
    exact ih fun x hx => h x (List.mem_cons_of_mem _ hx)

/-- The references of both lists, in order. -/
def unite (l m : List Reference) : List Reference := (addReferences l m).mergeSort notAfter

theorem inOrder_unite (l m : List Reference) : InOrder (unite l m) := inOrder_mergeSort _

theorem count_unite (l m : List Reference) (r : Reference) :
    (unite l m).count r = max (l.count r) (min 1 (m.count r)) := by
  rw [unite, (List.mergeSort_perm _ _).count_eq, count_addReferences]

theorem mem_unite {r : Reference} : r ∈ unite l m ↔ r ∈ l ∨ r ∈ m := by
  rw [unite, List.mem_mergeSort, mem_addReferences]

theorem unite_assoc (l m n : List Reference) : unite (unite l m) n = unite l (unite m n) := by
  refine (inOrder_unite _ _).eq_of_count (inOrder_unite _ _) fun r => ?_
  simp only [count_unite]
  omega

theorem unite_of_subset (h : ∀ r ∈ m, r ∈ l) : unite l m = l.mergeSort notAfter := by
  rw [unite, addReferences_of_subset h]

theorem unite_unite (l m : List Reference) : unite (unite l m) m = unite l m := by
  rw [unite_of_subset fun r hr => mem_unite.2 (.inr hr), mergeSort_eq_self_iff]
  exact inOrder_unite l m

theorem unite_self_eq_iff : unite l l = l ↔ InOrder l := by
  rw [unite_of_subset fun _ h => h, mergeSort_eq_self_iff]

end References

/-! ## Symbols -/

namespace Symbol

theorem absorb_eq (s t : Symbol) : s.absorb t =
    { s with
      definition := keepMin s.definition t.definition
      declaration := keepMin s.declaration t.declaration
      body := keepMin s.body t.body
      parentId := keepMin s.parentId t.parentId
      aliasedId := keepMin s.aliasedId t.aliasedId
      references := unite s.references t.references } := rfl

theorem absorb_assoc (s t u : Symbol) : (s.absorb t).absorb u = s.absorb (t.absorb u) := by
  simp only [absorb_eq, keepMin_assoc, unite_assoc]

theorem absorb_absorb (s t : Symbol) : (s.absorb t).absorb t = s.absorb t := by
  simp only [absorb_eq, keepMin_keepMin, unite_unite]

/-- Absorbing itself puts a symbol's references in order and changes nothing else. -/
theorem absorb_self_eq_iff {s : Symbol} : s.absorb s = s ↔ InOrder s.references := by
  simp only [absorb_eq, keepMin_self]
  rw [← unite_self_eq_iff]
  exact ⟨fun h => congrArg Symbol.references h, fun h => by rw [h]⟩

instance : Associative absorb := ⟨absorb_assoc⟩

end Symbol

end SymbolAtlas
