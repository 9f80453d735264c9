import SymbolAtlas.Table

/-!
# Ordered sets of keys

A `KeySet κ` is a table that holds nothing but its keys, so its members come out in ascending
order and two sets with the same members are equal (`KeySet.ext_mem`).
-/

namespace SymbolAtlas

open Std

structure KeySet (κ : Type) [Ord κ] where
  table : Table κ Unit

namespace KeySet

variable {κ : Type} [Ord κ]

instance [DecidableEq κ] : DecidableEq (KeySet κ) := fun s t =>
  decidable_of_iff (s.table = t.table) ⟨fun h => by cases s; cases t; cases h; rfl, fun h => h ▸ rfl⟩

instance : EmptyCollection (KeySet κ) := ⟨⟨∅⟩⟩

instance : Inhabited (KeySet κ) := ⟨∅⟩

def contains (s : KeySet κ) (k : κ) : Bool := s.table.contains k

instance : Membership κ (KeySet κ) := ⟨fun s k => s.contains k = true⟩

instance (k : κ) (s : KeySet κ) : Decidable (k ∈ s) := inferInstanceAs (Decidable (_ = true))

/-- The members in ascending order. -/
def toList (s : KeySet κ) : List κ := s.table.keys

def size (s : KeySet κ) : Nat := s.table.size

def isEmpty (s : KeySet κ) : Bool := s.table.isEmpty

def filter (s : KeySet κ) (keep : κ → Bool) : KeySet κ := ⟨s.table.filter fun k _ => keep k⟩

def erase (s : KeySet κ) (k : κ) : KeySet κ := ⟨s.table.erase k⟩

/-- The members of `s` that are in `t`. -/
def inter (s t : KeySet κ) : KeySet κ := s.filter t.contains

/-- The members of `s` that are not in `t`. -/
def diff (s t : KeySet κ) : KeySet κ := s.filter fun k => !t.contains k

/-- The keys of a table. -/
def ofKeys {α : Type} (t : Table κ α) : KeySet κ := ⟨t.map fun _ => ()⟩

theorem mem_iff {s : KeySet κ} {k : κ} : k ∈ s ↔ s.table.get? k = some () := by
  rw [show (k ∈ s) = ((s.table.get? k).isSome = true) from rfl, Option.isSome_iff_exists]
  exact ⟨fun ⟨_, h⟩ => h, fun h => ⟨_, h⟩⟩

@[simp] theorem not_mem_empty (k : κ) : ¬k ∈ (∅ : KeySet κ) := by
  simp [mem_iff, show (∅ : KeySet κ).table = ∅ from rfl]

theorem mem_toList [LawfulEqOrd κ] {s : KeySet κ} {k : κ} : k ∈ s.toList ↔ k ∈ s := by
  rw [mem_iff, Table.get?_eq_some_iff, toList, Table.keys, List.mem_map]
  constructor
  · intro h
    obtain ⟨e, he, rfl⟩ := h
    exact he
  · intro h
    exact ⟨_, h, rfl⟩

theorem mem_filter [LawfulEqOrd κ] {s : KeySet κ} {keep : κ → Bool} {k : κ} :
    k ∈ s.filter keep ↔ k ∈ s ∧ keep k = true := by
  simp [mem_iff, filter, Table.get?_filter]

/-! ## Building -/

variable [TransOrd κ]

def insert (s : KeySet κ) (k : κ) : KeySet κ := ⟨s.table.insert k ()⟩

def insertAll (s : KeySet κ) (ks : List κ) : KeySet κ := ks.foldl insert s

def ofList (ks : List κ) : KeySet κ := insertAll ∅ ks

def union (s t : KeySet κ) : KeySet κ := s.insertAll t.toList

/-- A set is determined by its members. -/
theorem ext_mem [LawfulEqOrd κ] {s t : KeySet κ} (h : ∀ k, k ∈ s ↔ k ∈ t) : s = t := by
  cases s; cases t
  refine congrArg _ (Table.ext_get? fun k => Option.ext fun _ => ?_)
  exact mem_iff.symm.trans ((h k).trans mem_iff)

theorem mem_insert [LawfulEqOrd κ] [DecidableEq κ] {s : KeySet κ} {k k' : κ} :
    k' ∈ s.insert k ↔ k' = k ∨ k' ∈ s := by
  simp only [mem_iff, insert, Table.get?_insert]
  split <;> simp_all

theorem mem_insertAll [LawfulEqOrd κ] [DecidableEq κ] {k : κ} {ks : List κ} :
    ∀ {s : KeySet κ}, k ∈ s.insertAll ks ↔ k ∈ ks ∨ k ∈ s := by
  induction ks with
  | nil => simp [insertAll]
  | cons k' ks ih =>
    intro s
    rw [show s.insertAll (k' :: ks) = (s.insert k').insertAll ks from rfl, ih, mem_insert,
      List.mem_cons]
    exact ⟨by rintro (h | h | h) <;> simp [h], by rintro ((h | h) | h) <;> simp [h]⟩

theorem mem_ofList [LawfulEqOrd κ] [DecidableEq κ] {k : κ} {ks : List κ} :
    k ∈ ofList ks ↔ k ∈ ks := by
  simp [ofList, mem_insertAll]

theorem mem_union [LawfulEqOrd κ] [DecidableEq κ] {s t : KeySet κ} {k : κ} :
    k ∈ s.union t ↔ k ∈ s ∨ k ∈ t := by
  rw [union, mem_insertAll, mem_toList, or_comm]

end KeySet

end SymbolAtlas
