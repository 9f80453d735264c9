import SymbolAtlas.Proofs.Table
import SymbolAtlas.Span

/-!
# What span sets hold

A set of spans is described by the span it has under each id. A union keeps the span that was there
first, so it does not depend on the order if spans with one id are the same span
(`SpanSet.union_comm_iff`).
-/

namespace SymbolAtlas

namespace SpanSet

variable {s t : SpanSet} {a b : Span} {id : String}

theorem ext_get? (h : ∀ id, s.byId.get? id = t.byId.get? id) : s = t := by
  obtain ⟨_, _⟩ := s
  obtain ⟨_, _⟩ := t
  exact (SpanSet.mk.injEq ..).mpr (Table.ext_get? h)

theorem id_of_get? (h : s.byId.get? id = some a) : a.id = id :=
  (s.keyed (id, a) (Table.get?_eq_some_iff.1 h)).symm

theorem mem_of_get? (h : s.byId.get? id = some a) : a ∈ s.toList := Table.mem_values.2 ⟨id, h⟩

theorem mem_toList : a ∈ s.toList ↔ s.byId.get? a.id = some a := by
  refine ⟨fun h => ?_, mem_of_get?⟩
  obtain ⟨id, h⟩ := Table.mem_values.1 h
  rwa [id_of_get? h]

theorem get?_eq_some_iff : s.byId.get? id = some a ↔ a ∈ s.toList ∧ a.id = id :=
  ⟨fun h => ⟨mem_of_get? h, id_of_get? h⟩, fun ⟨h, hid⟩ => hid ▸ mem_toList.1 h⟩

/-- The list of its spans determines a set. -/
theorem eq_of_toList (h : s.toList = t.toList) : s = t :=
  ext_get? fun id => Option.ext fun a => by rw [get?_eq_some_iff, h, get?_eq_some_iff]

theorem eq_of_id {set : SpanSet} (ha : a ∈ set.toList) (hb : b ∈ set.toList)
    (h : a.id = b.id) : a = b := by
  rw [mem_toList] at ha hb
  rw [h, hb] at ha
  exact (Option.some.inj ha).symm

theorem pairwise_id (s : SpanSet) : s.toList.Pairwise fun a b => compare a.id b.id = .lt :=
  Table.pairwise_values s.keyed

theorem nodup_ids (s : SpanSet) : (s.toList.map (·.id)).Nodup :=
  nodup_map_of_ascending s.pairwise_id

/-! ## Unions -/

theorem get?_insertNew (s : SpanSet) (a : Span) (id : String) : (s.insertNew a).byId.get? id =
    if id = a.id then (s.byId.get? id).or (some a) else s.byId.get? id := by
  have hbyId : (s.insertNew a).byId = s.byId.insertNew a.id a := apply_ite byId ..
  rw [hbyId, Table.get?_insertNew]

theorem mem_of_mem_insertNew (h : b ∈ (s.insertNew a).toList) : b ∈ s.toList ∨ b = a := by
  rw [mem_toList, get?_insertNew] at h
  split at h
  · rcases Option.or_eq_some_iff.1 h with h | ⟨-, h⟩
    · exact .inl (mem_of_get? h)
    · exact .inr (Option.some.inj h).symm
  · exact .inl (mem_of_get? h)

theorem get?_union (s t : SpanSet) (id : String) :
    (s.union t).byId.get? id = (s.byId.get? id).or (t.byId.get? id) := by
  have hor : ∀ x y : Option Span, x.merge (fun a _ => a) y = x.or y := by
    rintro (_ | x) (_ | y) <;> rfl
  rw [union, toList, Table.values, List.foldl_map, ← hor]
  refine Table.look_foldl (·.byId.get? id) t.byId.ascending (fun e he s => ?_) s
  rw [get?_insertNew, t.keyed e he, hor]

theorem empty_union (s : SpanSet) : union ∅ s = s :=
  ext_get? fun id => get?_union ∅ s id

theorem union_comm_iff :
    s.union t = t.union s ↔ ∀ a ∈ s.toList, ∀ b ∈ t.toList, a.id = b.id → a = b := by
  refine ⟨fun h a ha b hb hid => ?_, fun h => ext_get? fun id => ?_⟩
  · rw [mem_toList] at ha hb
    have hget := get?_union s t a.id
    rw [h, get?_union, ha, hid, hb] at hget
    exact (Option.some.inj hget).symm
  · rw [get?_union, get?_union]
    cases ha : s.byId.get? id with
    | none => rw [Option.none_or, Option.or_none]
    | some a =>
      cases hb : t.byId.get? id with
      | none => rfl
      | some b =>
        have hid : a.id = b.id := (id_of_get? ha).trans (id_of_get? hb).symm
        rw [h a (mem_of_get? ha) b (mem_of_get? hb) hid]

end SpanSet

/-! ## The spans of all files -/

/-- The spans of a table with their files. -/
def SpanTable.filed (spans : SpanTable) : List (String × Span) :=
  spans.entries.flatMap fun e => e.2.toList.map (e.1, ·)

theorem SpanTable.mem_filed {spans : SpanTable} {file : String} {a : Span} :
    (file, a) ∈ spans.filed ↔ ∃ set, spans.get? file = some set ∧ a ∈ set.toList :=
  Table.mem_flatMap_pairs

theorem SpanTable.mem_filed_iff {spans : SpanTable} {file : String} {a : Span} :
    (file, a) ∈ spans.filed ↔ a ∈ (spans.getD file ∅).toList :=
  Table.mem_flatMap_pairs_iff_getD rfl

/-- A span of a file is determined by its id. -/
theorem SpanTable.filed_eq_of_id {spans : SpanTable} {p q : String × Span} (hp : p ∈ spans.filed)
    (hq : q ∈ spans.filed) (hfile : p.1 = q.1) (hid : p.2.id = q.2.id) : p = q := by
  obtain ⟨s, hs, ha⟩ := mem_filed.1 hp
  obtain ⟨t, ht, hb⟩ := mem_filed.1 hq
  rw [hfile, ht] at hs
  cases hs
  exact Prod.ext hfile (SpanSet.eq_of_id ha hb hid)

end SymbolAtlas
