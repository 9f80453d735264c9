import SymbolAtlas.Table

/-!
# Grouping by key

`Table.group key l` files every item of `l` under its key. The items of a key stay in the order of
`l` (`Table.getD_group`).
-/

namespace SymbolAtlas.Table

open Std

variable {κ α : Type} [Ord κ] [TransOrd κ]

/-- Append an item to the list under `k`. -/
def push (t : Table κ (List α)) (k : κ) (a : α) : Table κ (List α) := t.insert k (t.getD k [] ++ [a])

def group (key : α → κ) (l : List α) : Table κ (List α) := l.foldl (fun t a => t.push (key a) a) ∅

variable [LawfulEqOrd κ] [DecidableEq κ]

theorem getD_push (t : Table κ (List α)) (k k' : κ) (a : α) :
    (t.push k a).getD k' [] = if k' = k then t.getD k [] ++ [a] else t.getD k' [] := by
  simp only [push, getD, get?_insert]
  split <;> simp

theorem getD_foldl_push (key : α → κ) (k : κ) (l : List α) : ∀ t : Table κ (List α),
    (l.foldl (fun t a => t.push (key a) a) t).getD k [] =
      t.getD k [] ++ l.filter fun a => key a = k := by
  induction l with
  | nil => simp
  | cons a l ih =>
    intro t
    rw [List.foldl_cons, ih, getD_push]
    by_cases h : key a = k
    · simp [h]
    · simp [h, Ne.symm h]

theorem getD_group (key : α → κ) (l : List α) (k : κ) :
    (group key l).getD k [] = l.filter fun a => key a = k := by
  rw [group, getD_foldl_push, getD, get?_empty, Option.getD_none, List.nil_append]

end SymbolAtlas.Table
