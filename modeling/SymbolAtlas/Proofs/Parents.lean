import Mathlib.Data.Set.Basic
import Mathlib.Logic.Relation
import SymbolAtlas.Proofs.Table
import SymbolAtlas.Reconcile.Cycle

/-!
# Chains of parents

`ix.ParentLink a b` is one step from a symbol to its parent and `ix.Ascends a b` one or more of
them. An id has at most one parent, so chains that start together never part: whatever is above an
id on a cycle is on the same cycle (`Ascends.back`). `ix.IsCycle c` says that `c` is the set of ids
of one cycle.
-/

namespace SymbolAtlas.Index

/-- The symbol under `a` names `b` as its parent. -/
def ParentLink (ix : Index) (a b : String) : Prop := ix.parent? a = some b

instance (ix : Index) (a b : String) : Decidable (ix.ParentLink a b) :=
  inferInstanceAs (Decidable (_ = _))

/-- One or more parent links lead from `a` up to `b`. -/
abbrev Ascends (ix : Index) : String → String → Prop := Relation.TransGen ix.ParentLink

/-- A chain of parent links from `a` comes back to it. -/
def OnCycle (ix : Index) (a : String) : Prop := ix.Ascends a a

/-- The ids that are met on the way round from one of them. -/
def IsCycle (ix : Index) (c : Set String) : Prop := ∃ a ∈ c, c = {b | ix.Ascends a b}

variable {ix : Index} {c : Set String} {a b k : String}

theorem ParentLink.unique {c : String} (h : ix.ParentLink a b) (h' : ix.ParentLink a c) : b = c :=
  Option.some.inj (h.symm.trans h')

theorem ParentLink.known (h : ix.ParentLink a b) : a ∈ ix.ids := by
  rw [ids, Table.mem_keys, Table.contains_iff]
  obtain ⟨s, hs, -⟩ := Option.bind_eq_some_iff.1 h
  exact ⟨s, hs⟩

/-- Every chain from `a` begins with the one link there is. -/
theorem Ascends.above_link {c : String} (h : ix.Ascends a c) (hl : ix.ParentLink a b) :
    Relation.ReflTransGen ix.ParentLink b c := by
  obtain ⟨d, hd, h⟩ := Relation.TransGen.head'_iff.1 h
  rwa [hl.unique hd]

theorem Ascends.known (h : ix.Ascends a b) : a ∈ ix.ids := by
  obtain ⟨_, hl, -⟩ := Relation.TransGen.head'_iff.1 h
  exact ParentLink.known hl

/-- What is above an id on a cycle has that id above it. -/
theorem Ascends.back (h : ix.Ascends a b) (hc : ix.OnCycle a) : ix.Ascends b a := by
  have closes : ∀ {c}, Relation.ReflTransGen ix.ParentLink c a → ix.Ascends c a := fun hca =>
    Relation.TransGen.trans_right hca hc
  induction h with
  | single hl => exact closes (hc.above_link hl)
  | tail _ hl ih => exact closes (ih.above_link hl)

theorem Ascends.onCycle (h : ix.Ascends a b) (hc : ix.OnCycle a) : ix.OnCycle b :=
  (h.back hc).trans h

theorem OnCycle.isCycle (h : ix.OnCycle a) : ix.IsCycle {b | ix.Ascends a b} := ⟨a, h, rfl⟩

/-- From any two ids of one cycle the same ids are met. -/
theorem Ascends.cycle_eq (h : ix.Ascends a b) (hc : ix.OnCycle a) :
    {d | ix.Ascends a d} = {d | ix.Ascends b d} :=
  Set.ext fun _ => ⟨(h.back hc).trans, h.trans⟩

theorem OnCycle.exists_link (h : ix.OnCycle a) : ∃ b, ix.ParentLink a b :=
  (Relation.TransGen.head'_iff.1 h).imp fun _ => And.left

theorem IsCycle.onCycle (hc : ix.IsCycle c) (ha : a ∈ c) : ix.OnCycle a := by
  obtain ⟨b, hb, rfl⟩ := hc
  exact Ascends.onCycle ha hb

theorem IsCycle.mem_iff (hc : ix.IsCycle c) (ha : a ∈ c) : b ∈ c ↔ ix.Ascends a b := by
  obtain ⟨d, hd, rfl⟩ := hc
  exact ⟨(Ascends.back ha hd).trans, Relation.TransGen.trans ha⟩

theorem IsCycle.exists_link_from (hc : ix.IsCycle c) (ha : a ∈ c) :
    ∃ b ∈ c, ix.ParentLink a b := by
  obtain ⟨b, hl⟩ := (hc.onCycle ha).exists_link
  exact ⟨b, (hc.mem_iff ha).2 (.single hl), hl⟩

theorem IsCycle.exists_link_to (hc : ix.IsCycle c) (hb : b ∈ c) :
    ∃ a ∈ c, ix.ParentLink a b := by
  obtain ⟨a, h, hl⟩ := Relation.TransGen.tail'_iff.1 (hc.onCycle hb)
  refine ⟨a, ?_, hl⟩
  rcases Relation.reflTransGen_iff_eq_or_transGen.1 h with rfl | h
  · exact hb
  · exact (hc.mem_iff hb).2 h

/-- Two ids that are each other's parents are a cycle. -/
theorem isCycle_pair (hab : ix.ParentLink a b) (hba : ix.ParentLink b a) :
    ix.IsCycle {a, b} := by
  refine ⟨a, .inl rfl, Set.ext fun x => ⟨?_, fun h => ?_⟩⟩
  · rintro (rfl | rfl)
    · exact .tail (.single hab) hba
    · exact .single hab
  · induction h with
    | single hl => exact .inr (hl.unique hab)
    | tail _ hl ih =>
      rcases ih with rfl | rfl
      · exact .inr (hl.unique hab)
      · exact .inl (hl.unique hba)

/-! ## Leaving links out -/

/-- `part` has no parent link that `ix` does not have. -/
def KeepsLinksOf (part ix : Index) : Prop := ∀ a b, part.ParentLink a b → ix.ParentLink a b

theorem KeepsLinksOf.ascends {part : Index} (hp : part.KeepsLinksOf ix) (h : part.Ascends a b) :
    ix.Ascends a b :=
  Relation.TransGen.mono hp _ _ h

/-- A cycle that stays when links are left out stays whole. -/
theorem KeepsLinksOf.stays {part : Index} (hp : part.KeepsLinksOf ix) (hc : part.OnCycle a)
    (h : ix.Ascends a b) : part.Ascends a b := by
  have next : ∀ {c d}, part.OnCycle c → ix.ParentLink c d → part.ParentLink c d := by
    intro c d hcyc hl
    obtain ⟨e, he⟩ := hcyc.exists_link
    rwa [hl.unique (hp _ _ he)]
  induction h with
  | single hl => exact .single (next hc hl)
  | tail _ hl ih => exact ih.tail (next (ih.onCycle hc) hl)

/-- Where each cycle has lost the parent of one of its ids, no cycle is left. -/
theorem KeepsLinksOf.acyclic {part : Index} (hp : part.KeepsLinksOf ix)
    (cut : ∀ a, ix.OnCycle a → ∃ k, ix.Ascends a k ∧ part.parent? k = none) (a : String) :
    ¬part.OnCycle a := by
  intro hc
  obtain ⟨k, hk, hnone⟩ := cut a (hp.ascends hc)
  obtain ⟨e, he⟩ := ((hp.stays hc hk).onCycle hc).exists_link
  rw [ParentLink, hnone] at he
  cases he

end SymbolAtlas.Index
