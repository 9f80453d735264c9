import SymbolAtlas.KeySet
import SymbolAtlas.Table.Group

/-!
# What tables and key sets hold

Every operation of a table is described by its look-ups, and a set by its members. `get?_ofList`
says that of several values listed for a key the last one stays; `filter_filter` and
`toList_filter` say how sets and tables are cut down.
-/

namespace SymbolAtlas

open Std

theorem filter_swap {α : Type} (p q : α → Bool) (l : List α) :
    (l.filter p).filter q = (l.filter q).filter p := by
  rw [List.filter_filter, List.filter_filter]
  exact List.filter_congr fun _ _ => Bool.and_comm ..

/-- What comes in ascending order of its keys has no key twice. -/
theorem nodup_map_of_ascending {κ α : Type} [Ord κ] [LawfulEqOrd κ] {key : α → κ} {l : List α}
    (h : l.Pairwise fun a b => compare (key a) (key b) = .lt) : (l.map key).Nodup := by
  refine List.pairwise_map.2 (h.imp fun hlt heq => ?_)
  rw [heq] at hlt
  simp at hlt

namespace Table

variable {κ α β : Type} [Ord κ]

theorem contains_iff {t : Table κ α} {k : κ} : t.contains k = true ↔ ∃ v, t.get? k = some v := by
  rw [contains, Option.isSome_iff_exists]

/-- Values that hold their own keys are listed by them. -/
theorem pairwise_values {t : Table κ α} {key : α → κ} (keyed : ∀ e ∈ t.entries, e.1 = key e.2) :
    t.values.Pairwise fun v w => compare (key v) (key w) = .lt := by
  refine List.pairwise_map.2 (t.ascending.imp_of_mem fun hd he h => ?_)
  rwa [← keyed _ hd, ← keyed _ he]

/-- A value under a free key is one entry more. -/
theorem perm_put {k : κ} (v : α) {es : List (κ × α)} (h : lookup k es = none) :
    (put k v es).Perm ((k, v) :: es) := by
  induction es with
  | nil => exact .refl _
  | cons e es ih =>
    unfold lookup at h
    split at h
    · cases h
    · unfold put
      split
      · exact .refl _
      · contradiction
      · exact ((ih h).cons e).trans (.swap ..)

section Lookups
variable [LawfulEqOrd κ]

theorem mem_keys {t : Table κ α} {k : κ} : k ∈ t.keys ↔ t.contains k = true := by
  rw [contains_iff, keys, List.mem_map]
  refine ⟨?_, ?_⟩
  · rintro ⟨e, he, rfl⟩
    exact ⟨e.2, get?_eq_some_iff.2 he⟩
  · rintro ⟨v, hv⟩
    exact ⟨(k, v), get?_eq_some_iff.1 hv, rfl⟩

theorem nodup_keys (t : Table κ α) : t.keys.Nodup := nodup_map_of_ascending t.ascending

theorem mem_values {t : Table κ α} {v : α} : v ∈ t.values ↔ ∃ k, t.get? k = some v := by
  rw [values, List.mem_map]
  refine ⟨?_, ?_⟩
  · rintro ⟨e, he, rfl⟩
    exact ⟨e.1, get?_eq_some_iff.2 he⟩
  · rintro ⟨k, hk⟩
    exact ⟨(k, v), get?_eq_some_iff.1 hk, rfl⟩

/-- What values hold, listed with their keys. -/
theorem mem_flatMap_pairs {t : Table κ α} {f : α → List β} {k : κ} {b : β} :
    (k, b) ∈ t.entries.flatMap (fun e => (f e.2).map (e.1, ·)) ↔
      ∃ v, t.get? k = some v ∧ b ∈ f v := by
  rw [List.mem_flatMap]
  refine ⟨?_, ?_⟩
  · rintro ⟨e, he, h⟩
    obtain ⟨c, hc, heq⟩ := List.mem_map.1 h
    cases heq
    exact ⟨e.2, get?_eq_some_iff.2 he, hc⟩
  · rintro ⟨v, hv, hb⟩
    exact ⟨(k, v), get?_eq_some_iff.1 hv, List.mem_map_of_mem hb⟩

/-- A key that is not listed holds what the fallback does: nothing. -/
theorem mem_flatMap_pairs_iff_getD {t : Table κ α} {f : α → List β} {d : α} (hd : f d = []) {k : κ}
    {b : β} : (k, b) ∈ t.entries.flatMap (fun e => (f e.2).map (e.1, ·)) ↔ b ∈ f (t.getD k d) := by
  rw [mem_flatMap_pairs, getD]
  cases t.get? k with
  | none => simp [hd]
  | some v => simp

/-- What only one key gives something for is given by the value of that key. -/
theorem flatMap_entries {t : Table κ α} {k : κ} {g : κ × α → List β}
    (h : ∀ e ∈ t.entries, e.1 ≠ k → g e = []) :
    t.entries.flatMap g = (t.get? k).elim [] fun v => g (k, v) := by
  cases hget : t.get? k with
  | none =>
    refine List.flatMap_eq_nil_iff.2 fun e he => h e he ?_
    rintro rfl
    rw [get?_eq_some_iff.2 he] at hget
    cases hget
  | some v =>
    obtain ⟨before, after, hsplit⟩ := List.append_of_mem (get?_eq_some_iff.1 hget)
    have hkeys := t.nodup_keys
    rw [keys, hsplit, List.map_append, List.map_cons] at hkeys
    obtain ⟨-, hk, hapart⟩ := List.nodup_append.1 hkeys
    have hbefore : before.flatMap g = [] := List.flatMap_eq_nil_iff.2 fun e he => by
      refine h e (by rw [hsplit]; exact List.mem_append_left _ he) ?_
      exact hapart e.1 (List.mem_map_of_mem he) k (List.mem_cons_self ..)
    have hafter : after.flatMap g = [] := List.flatMap_eq_nil_iff.2 fun e he => by
      refine h e (by rw [hsplit]; exact List.mem_append_right _ (List.mem_cons_of_mem _ he)) ?_
      intro heq
      refine (List.nodup_cons.1 hk).1 ?_
      show k ∈ after.map Prod.fst
      rw [← heq]
      exact List.mem_map_of_mem he
    rw [hsplit, List.flatMap_append, List.flatMap_cons, hbefore, hafter, List.nil_append,
      List.append_nil, Option.elim_some]

theorem get?_modify [DecidableEq κ] (t : Table κ α) (k k' : κ) (f : α → α) :
    (t.modify k f).get? k' = if k' = k then (t.get? k').map f else t.get? k' := by
  rw [modify, get?_mapWithKey]
  by_cases h : k' = k
  · subst h; simp
  · rw [if_neg h]
    have hne : compare k k' ≠ .eq := fun e => h (LawfulEqOrd.compare_eq_iff_eq.1 e).symm
    simp [hne]

theorem contains_mapWithKey (t : Table κ α) (f : κ → α → β) (k : κ) :
    (t.mapWithKey f).contains k = t.contains k := by
  simp [contains]

theorem get?_erase [DecidableEq κ] (t : Table κ α) (k k' : κ) :
    (t.erase k).get? k' = if k' = k then none else t.get? k' := by
  rw [erase, get?_filter]
  by_cases h : k' = k
  · subst h; simp
  · rw [if_neg h]
    have hne : compare k k' ≠ .eq := fun e => h (LawfulEqOrd.compare_eq_iff_eq.1 e).symm
    cases t.get? k' <;> simp [Option.filter, hne]

/-- Entries that are taken in one by one, each under its own key, show together what the table they
come from holds. -/
theorem look_foldl [DecidableEq κ] {σ : Type} (look : σ → Option α) {step : σ → κ × α → σ}
    {join : α → α → α} {k : κ} {es : List (κ × α)}
    (asc : es.Pairwise fun d e => compare d.1 e.1 = .lt)
    (hstep : ∀ e ∈ es, ∀ s,
      look (step s e) = if k = e.1 then (look s).merge join (some e.2) else look s) (s : σ) :
    look (es.foldl step s) = (look s).merge join (lookup k es) := by
  induction es generalizing s with
  | nil => rw [List.foldl_nil, lookup, Option.merge_none_right]
  | cons e es ih =>
    obtain ⟨hlt, asc⟩ := List.pairwise_cons.1 asc
    obtain ⟨he, hes⟩ := List.forall_mem_cons.1 hstep
    rw [List.foldl_cons, ih asc hes, he]
    simp only [lookup, LawfulEqOrd.compare_eq_iff_eq]
    split
    · next h =>
      have hnone : lookup k es = none := by
        rw [Option.eq_none_iff_forall_ne_some]
        intro v hv
        have hkey := hlt _ (mem_of_lookup hv)
        rw [← h] at hkey
        simp at hkey
      rw [hnone, Option.merge_none_right]
    · rfl

end Lookups

theorem filter_filter (t : Table κ α) (p q : κ → α → Bool) :
    (t.filter p).filter q = t.filter fun k v => p k v && q k v := by
  apply ext
  simp only [filter, List.filter_filter]
  exact List.filter_congr fun e _ => Bool.and_comm ..

section Building
variable [TransOrd κ] [LawfulEqOrd κ] [DecidableEq κ]

theorem get?_foldl_insert (k : κ) (es : List (κ × α)) : ∀ t : Table κ α,
    (es.foldl (fun t e => t.insert e.1 e.2) t).get? k =
      ((es.filter fun e => e.1 = k).getLast?.map (·.2)).or (t.get? k) := by
  induction es with
  | nil => simp
  | cons e es ih =>
    intro t
    rw [List.foldl_cons, ih, get?_insert]
    by_cases h : e.1 = k
    · simp only [h, if_true, List.filter_cons_of_pos, decide_true]
      cases hl : (es.filter fun e => e.1 = k).getLast? with
      | none => simp [List.getLast?_eq_none_iff.1 hl]
      | some d => simp [List.getLast?_cons, hl]
    · simp [h, Ne.symm h]

/-- Of several values listed for one key the last one stays. -/
theorem get?_ofList (es : List (κ × α)) (k : κ) :
    (ofList es).get? k = (es.filter fun e => e.1 = k).getLast?.map (·.2) := by
  rw [ofList, get?_foldl_insert, get?_empty, Option.or_none]

/-- The entries of a table make the table. -/
theorem ofList_entries (t : Table κ α) : ofList t.entries = t := by
  refine ext_get? fun k => ?_
  have hinsert : ∀ e ∈ t.entries, ∀ s : Table κ α, (s.insert e.1 e.2).get? k =
      if k = e.1 then (s.get? k).merge (fun _ b => b) (some e.2) else s.get? k := by
    intro e _ s
    rw [get?_insert]
    split
    · cases s.get? k <;> rfl
    · rfl
  refine (look_foldl (fun s : Table κ α => s.get? k) t.ascending hinsert ∅).trans ?_
  rw [get?_empty, Option.merge_none_left]
  rfl

/-- Inserting the entries of what a list makes is inserting the list. -/
theorem foldl_insert_ofList (es : List (κ × α)) (t : Table κ α) :
    (ofList es).entries.foldl (fun t e => t.insert e.1 e.2) t =
      es.foldl (fun t e => t.insert e.1 e.2) t := by
  refine ext_get? fun k => ?_
  rw [get?_foldl_insert, get?_foldl_insert, ← get?_ofList, ← get?_ofList, ofList_entries]

/-- Where no key is listed twice, the first value of a key is the last. -/
theorem get?_ofList_of_nodup {es : List (κ × α)} (h : (es.map (·.1)).Nodup) (k : κ) :
    (ofList es).get? k = lookup k es := by
  rw [get?_ofList]
  induction es with
  | nil => rfl
  | cons e es ih =>
    obtain ⟨he, hes⟩ := List.nodup_cons.1 h
    rw [List.filter_cons, lookup]
    by_cases hk : k = e.1
    · have hrest : es.filter (·.1 = k) = [] := by
        rw [List.filter_eq_nil_iff]
        intro d hd hkey
        exact he (List.mem_map.2 ⟨d, hd, (of_decide_eq_true hkey).trans hk⟩)
      rw [hrest]
      simp [hk]
    · simp only [LawfulEqOrd.compare_eq_iff_eq, hk, Ne.symm hk, decide_false, Bool.false_eq_true,
        if_false]
      exact ih hes

theorem get?_insertNew (t : Table κ α) (k k' : κ) (v : α) : (t.insertNew k v).get? k' =
    if k' = k then (t.get? k').or (some v) else t.get? k' := by
  unfold insertNew
  split
  · next h =>
    obtain ⟨w, hw⟩ := contains_iff.1 h
    split
    · next e =>
      rw [e, hw]
      rfl
    · rfl
  · next h =>
    rw [get?_insert]
    split
    · next e =>
      subst e
      cases hv : t.get? k' with
      | none => rfl
      | some w => exact absurd (contains_iff.2 ⟨w, hv⟩) h
    · rfl

theorem contains_group {key : α → κ} {l : List α} {k : κ} :
    (group key l).contains k = true ↔ ∃ a ∈ l, key a = k := by
  have run : ∀ (l : List α) (t : Table κ (List α)),
      (l.foldl (fun t a => t.push (key a) a) t).contains k = true ↔
        t.contains k = true ∨ ∃ a ∈ l, key a = k := by
    intro l
    induction l with
    | nil => simp
    | cons a l ih =>
      intro t
      have hpush : (t.push (key a) a).contains k = true ↔ t.contains k = true ∨ key a = k := by
        simp only [contains, push, get?_insert]
        by_cases e : k = key a
        · simp [e]
        · simp [e, Ne.symm e]
      rw [List.foldl_cons, ih, hpush, or_assoc]
      simp only [List.mem_cons, exists_eq_or_imp]
  refine (run l ∅).trans ?_
  simp [contains]

theorem mem_of_get?_ofList {es : List (κ × α)} {k : κ} {v : α} (h : (ofList es).get? k = some v) :
    (k, v) ∈ es := by
  rw [get?_ofList, Option.map_eq_some_iff] at h
  obtain ⟨e, he, rfl⟩ := h
  obtain ⟨hm, hk⟩ := List.mem_filter.1 (List.mem_of_getLast? he)
  rw [← of_decide_eq_true hk]
  exact hm

theorem not_mem_of_get?_ofList {es : List (κ × α)} {k : κ} (h : (ofList es).get? k = none)
    (v : α) : (k, v) ∉ es := by
  rw [get?_ofList, Option.map_eq_none_iff, List.getLast?_eq_none_iff, List.filter_eq_nil_iff] at h
  exact fun hm => h (k, v) hm (decide_eq_true rfl)

/-- The last value of a key stays when other items of the list are left out. -/
theorem get?_ofList_filter {es : List (κ × α)} {k : κ} {v : α} {keep : κ × α → Bool}
    (h : (ofList es).get? k = some v) (hkeep : keep (k, v) = true) :
    (ofList (es.filter keep)).get? k = some v := by
  rw [get?_ofList, Option.map_eq_some_iff] at h
  obtain ⟨e, he, rfl⟩ := h
  obtain rfl : e.1 = k := of_decide_eq_true (List.mem_filter.1 (List.mem_of_getLast? he)).2
  obtain ⟨init, hinit⟩ := List.getLast?_eq_some_iff.1 he
  rw [get?_ofList, filter_swap, hinit, List.filter_append, List.filter_cons_of_pos hkeep]
  simp

theorem get?_ofList_filter_of_none {es : List (κ × α)} {k : κ} (keep : κ × α → Bool)
    (h : (ofList es).get? k = none) : (ofList (es.filter keep)).get? k = none := by
  rw [get?_ofList, Option.map_eq_none_iff, List.getLast?_eq_none_iff] at h
  rw [get?_ofList, filter_swap, h]
  rfl

end Building

end Table

namespace KeySet

variable {κ : Type} [Ord κ]

theorem contains_iff {s : KeySet κ} {k : κ} : s.contains k = true ↔ k ∈ s := Iff.rfl

theorem length_toList (s : KeySet κ) : s.toList.length = s.size := List.length_map ..

theorem toList_filter (s : KeySet κ) (keep : κ → Bool) :
    (s.filter keep).toList = s.toList.filter keep := by
  simp only [toList, Table.keys, filter, Table.filter, List.filter_map]
  rfl

/-- The list of its members determines a set. -/
theorem eq_of_toList [TransOrd κ] [LawfulEqOrd κ] {s t : KeySet κ} (h : s.toList = t.toList) :
    s = t :=
  ext_mem fun k => by rw [← mem_toList, h, mem_toList]

theorem mem_erase [LawfulEqOrd κ] [DecidableEq κ] {s : KeySet κ} {k k' : κ} :
    k' ∈ s.erase k ↔ k' ≠ k ∧ k' ∈ s := by
  rw [mem_iff, erase, Table.get?_erase, mem_iff]
  split <;> simp_all

theorem contains_inter [LawfulEqOrd κ] (s t : KeySet κ) (k : κ) :
    (s.inter t).contains k = (s.contains k && t.contains k) := by
  rw [Bool.eq_iff_iff, Bool.and_eq_true]
  exact mem_filter

theorem inter_self [TransOrd κ] [LawfulEqOrd κ] (s : KeySet κ) : s.inter s = s := by
  refine ext_mem fun k => ?_
  rw [← contains_iff, contains_inter, Bool.and_self, contains_iff]

end KeySet

end SymbolAtlas
