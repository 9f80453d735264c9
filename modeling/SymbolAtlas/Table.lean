/-!
# Key-sorted tables

A `Table κ α` is a finite map held as its list of entries in strictly ascending key order. The
order is part of the type, so a table is determined by its look-ups (`Table.ext_get?`) and its
entries come out sorted. Each operation has one lemma about `get?`.
-/

namespace SymbolAtlas

open Std

/-- A finite map, listed in strictly ascending key order. -/
structure Table (κ : Type) (α : Type) [Ord κ] where
  entries : List (κ × α)
  ascending : entries.Pairwise fun a b => compare a.1 b.1 = .lt

namespace Table

variable {κ α β : Type} [Ord κ]

@[ext] theorem ext {s t : Table κ α} (h : s.entries = t.entries) : s = t := by
  cases s; cases t; cases h; rfl

instance [DecidableEq κ] [DecidableEq α] : DecidableEq (Table κ α) := fun s t =>
  decidable_of_iff (s.entries = t.entries) ⟨ext, fun h => h ▸ rfl⟩

instance : EmptyCollection (Table κ α) := ⟨⟨[], .nil⟩⟩

instance : Inhabited (Table κ α) := ⟨∅⟩

/-! ## Reading -/

/-- The first entry under `k`; in an ascending list it is the only one. -/
def lookup (k : κ) : List (κ × α) → Option α
  | [] => none
  | e :: es => if compare k e.1 = .eq then some e.2 else lookup k es

def get? (t : Table κ α) (k : κ) : Option α := lookup k t.entries

def getD (t : Table κ α) (k : κ) (fallback : α) : α := (t.get? k).getD fallback

def contains (t : Table κ α) (k : κ) : Bool := (t.get? k).isSome

def keys (t : Table κ α) : List κ := t.entries.map (·.1)

def values (t : Table κ α) : List α := t.entries.map (·.2)

def size (t : Table κ α) : Nat := t.entries.length

def isEmpty (t : Table κ α) : Bool := t.entries.isEmpty

@[simp] theorem entries_empty : (∅ : Table κ α).entries = [] := rfl

@[simp] theorem get?_empty (k : κ) : (∅ : Table κ α).get? k = none := rfl

/-! ## Writing -/

/-- Put `v` under `k`, at its place in an ascending list. -/
def put (k : κ) (v : α) : List (κ × α) → List (κ × α)
  | [] => [(k, v)]
  | e :: es =>
    match compare k e.1 with
    | .lt => (k, v) :: e :: es
    | .eq => (k, v) :: es
    | .gt => e :: put k v es

theorem mem_put {k : κ} {v : α} {e : κ × α} :
    ∀ {es : List (κ × α)}, e ∈ put k v es → e = (k, v) ∨ e ∈ es
  | [], h => by simp_all [put]
  | d :: ds, h => by
    unfold put at h
    split at h
    · simpa using h
    · simp only [List.mem_cons] at h ⊢
      exact h.imp_right .inr
    · simp only [List.mem_cons] at h ⊢
      rcases h with h | h
      · exact .inr (.inl h)
      · exact (mem_put h).imp_right .inr

theorem ascending_put [TransOrd κ] (k : κ) (v : α) :
    ∀ {es : List (κ × α)}, es.Pairwise (fun a b => compare a.1 b.1 = .lt) →
      (put k v es).Pairwise fun a b => compare a.1 b.1 = .lt
  | [], _ => by simp [put]
  | e :: es, h => by
    rw [List.pairwise_cons] at h
    unfold put
    split
    · next hk =>
      refine List.pairwise_cons.2 ⟨?_, List.pairwise_cons.2 h⟩
      intro d hd
      rcases List.mem_cons.1 hd with rfl | hd
      · exact hk
      · exact TransCmp.lt_trans hk (h.1 d hd)
    · next hk =>
      exact List.pairwise_cons.2 ⟨fun d hd => TransCmp.lt_of_eq_of_lt hk (h.1 d hd), h.2⟩
    · next hk =>
      refine List.pairwise_cons.2 ⟨?_, ascending_put k v h.2⟩
      intro d hd
      rcases mem_put hd with rfl | hd
      · exact OrientedCmp.lt_of_gt hk
      · exact h.1 d hd

def insert [TransOrd κ] (t : Table κ α) (k : κ) (v : α) : Table κ α :=
  ⟨put k v t.entries, ascending_put k v t.ascending⟩

/-- Put `v` under `k` unless the key is taken. -/
def insertNew [TransOrd κ] (t : Table κ α) (k : κ) (v : α) : Table κ α :=
  if t.contains k then t else t.insert k v

def ofList [TransOrd κ] (es : List (κ × α)) : Table κ α :=
  es.foldl (fun t e => t.insert e.1 e.2) ∅

/-- The entries that `keep` accepts. -/
def filter (t : Table κ α) (keep : κ → α → Bool) : Table κ α :=
  ⟨t.entries.filter fun e => keep e.1 e.2, t.ascending.filter _⟩

def erase (t : Table κ α) (k : κ) : Table κ α :=
  t.filter fun k' _ => compare k k' ≠ .eq

/-- Change every value, keeping its key. -/
def mapWithKey (t : Table κ α) (f : κ → α → β) : Table κ β :=
  ⟨t.entries.map fun e => (e.1, f e.1 e.2), List.pairwise_map.2 t.ascending⟩

def map (t : Table κ α) (f : α → β) : Table κ β := t.mapWithKey fun _ => f

/-- Change the value under `k`, if there is one. -/
def modify (t : Table κ α) (k : κ) (f : α → α) : Table κ α :=
  t.mapWithKey fun k' v => if compare k k' = .eq then f v else v

/-! ## Look-ups after an operation -/

@[simp] theorem lookup_put_self [LawfulEqOrd κ] (k : κ) (v : α) (es : List (κ × α)) :
    lookup k (put k v es) = some v := by
  induction es with
  | nil => simp [put, lookup]
  | cons e es ih => unfold put; split <;> simp_all [lookup]

theorem lookup_put_of_ne [TransOrd κ] [LawfulEqOrd κ] {k k' : κ} (h : k' ≠ k) (v : α)
    (es : List (κ × α)) : lookup k' (put k v es) = lookup k' es := by
  induction es with
  | nil => simp [put, lookup, h]
  | cons e es ih =>
    unfold put
    split
    · simp [lookup, h]
    · next hk => simp [lookup, h, ← LawfulEqCmp.eq_of_compare hk]
    · simp only [lookup, ih]

theorem get?_insert [TransOrd κ] [LawfulEqOrd κ] [DecidableEq κ] (t : Table κ α) (k k' : κ)
    (v : α) : (t.insert k v).get? k' = if k' = k then some v else t.get? k' := by
  split
  · next h => subst h; exact lookup_put_self k' v t.entries
  · next h => exact lookup_put_of_ne h v t.entries

theorem lookup_map (k : κ) (f : κ → α → β) (es : List (κ × α)) [LawfulEqOrd κ] :
    lookup k (es.map fun e => (e.1, f e.1 e.2)) = (lookup k es).map (f k) := by
  induction es with
  | nil => rfl
  | cons e es ih =>
    simp only [List.map_cons, lookup]
    split
    · next h => rw [LawfulEqCmp.eq_of_compare h]; rfl
    · exact ih

@[simp] theorem get?_mapWithKey [LawfulEqOrd κ] (t : Table κ α) (f : κ → α → β) (k : κ) :
    (t.mapWithKey f).get? k = (t.get? k).map (f k) := lookup_map k f t.entries

@[simp] theorem get?_map [LawfulEqOrd κ] (t : Table κ α) (f : α → β) (k : κ) :
    (t.map f).get? k = (t.get? k).map f := get?_mapWithKey t _ k

@[simp] theorem keys_mapWithKey (t : Table κ α) (f : κ → α → β) :
    (t.mapWithKey f).keys = t.keys := by
  simp [keys, mapWithKey]

theorem mem_of_lookup [LawfulEqOrd κ] {k : κ} {v : α} :
    ∀ {es : List (κ × α)}, lookup k es = some v → (k, v) ∈ es
  | [], h => by simp [lookup] at h
  | e :: es, h => by
    unfold lookup at h
    split at h
    · next hk =>
      cases h
      rw [LawfulEqCmp.eq_of_compare hk]
      exact List.mem_cons_self ..
    · exact List.mem_cons_of_mem _ (mem_of_lookup h)

theorem lookup_of_mem [LawfulEqOrd κ] {k : κ} {v : α} {es : List (κ × α)}
    (asc : es.Pairwise fun a b => compare a.1 b.1 = .lt) (h : (k, v) ∈ es) :
    lookup k es = some v := by
  induction es with
  | nil => simp at h
  | cons e es ih =>
    rw [List.pairwise_cons] at asc
    rcases List.mem_cons.1 h with rfl | h
    · simp [lookup]
    · have hne : compare k e.1 ≠ .eq := by
        intro hk
        have := asc.1 _ h
        rw [← LawfulEqCmp.eq_of_compare hk] at this
        simp at this
      simp only [lookup, hne, if_false]
      exact ih asc.2 h

theorem get?_eq_some_iff [LawfulEqOrd κ] {t : Table κ α} {k : κ} {v : α} :
    t.get? k = some v ↔ (k, v) ∈ t.entries :=
  ⟨mem_of_lookup, lookup_of_mem t.ascending⟩

theorem get?_filter [LawfulEqOrd κ] (t : Table κ α) (keep : κ → α → Bool) (k : κ) :
    (t.filter keep).get? k = (t.get? k).filter (keep k) := by
  apply Option.ext
  intro v
  rw [get?_eq_some_iff, Option.filter_eq_some_iff, get?_eq_some_iff]
  simp [filter]

theorem eq_of_mem_iff [TransOrd κ] : ∀ {es fs : List (κ × α)},
    es.Pairwise (fun a b => compare a.1 b.1 = .lt) →
    fs.Pairwise (fun a b => compare a.1 b.1 = .lt) → (∀ e, e ∈ es ↔ e ∈ fs) → es = fs
  | [], [], _, _, _ => rfl
  | [], f :: _, _, _, h => absurd ((h f).2 (List.mem_cons_self ..)) (by simp)
  | e :: _, [], _, _, h => absurd ((h e).1 (List.mem_cons_self ..)) (by simp)
  | e :: es, f :: fs, he, hf, h => by
    rw [List.pairwise_cons] at he hf
    have irrefl : ∀ d : κ × α, compare d.1 d.1 ≠ .lt := fun d => by
      simp
    have heq : e = f := by
      rcases List.mem_cons.1 ((h e).1 (List.mem_cons_self ..)) with rfl | hef
      · rfl
      rcases List.mem_cons.1 ((h f).2 (List.mem_cons_self ..)) with rfl | hfe
      · rfl
      exact absurd (TransCmp.lt_trans (he.1 f hfe) (hf.1 e hef)) (irrefl e)
    subst heq
    refine congrArg _ (eq_of_mem_iff he.2 hf.2 fun d => ⟨fun hd => ?_, fun hd => ?_⟩)
    · rcases List.mem_cons.1 ((h d).1 (List.mem_cons_of_mem _ hd)) with rfl | hd'
      · exact absurd (he.1 d hd) (irrefl d)
      · exact hd'
    · rcases List.mem_cons.1 ((h d).2 (List.mem_cons_of_mem _ hd)) with rfl | hd'
      · exact absurd (hf.1 d hd) (irrefl d)
      · exact hd'

/-- A table is determined by its look-ups. -/
theorem ext_get? [TransOrd κ] [LawfulEqOrd κ] {s t : Table κ α}
    (h : ∀ k, s.get? k = t.get? k) : s = t :=
  ext <| eq_of_mem_iff s.ascending t.ascending fun e => by
    rw [← get?_eq_some_iff (t := s), ← get?_eq_some_iff (t := t), h]

end Table

end SymbolAtlas
