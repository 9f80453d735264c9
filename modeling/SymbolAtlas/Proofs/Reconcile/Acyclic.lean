import SymbolAtlas.Proofs.Parents.Survey
import SymbolAtlas.Proofs.Reconcile.Matching

/-!
# Reconciled parents never come back

The stages of a reconciliation by name: `ix.matched c spans`, the index with its links resolved
(`ix.resolved c spans`) and the same index without cycles, which is the result
(`reconcile_index`). `reconcile_acyclic` says what the last stage removes and what it leaves,
whatever links the index had and whatever was resolved.
-/

namespace SymbolAtlas.Index

/-- The filtered index after matching. -/
def matched (c : Config) (ix : Index) (spans : SpanTable) : Matched :=
  (ix.prefilter c {}).1.matchSpans c (.ofForest (.build spans))

/-- What the parents of a reconciliation are looked up in. -/
def parentContext (c : Config) (ix : Index) (spans : SpanTable) : ParentContext :=
  ⟨.ofForest (.build spans), (ix.matched c spans).claims⟩

/-- The index with its parents and alias targets in place, before cycles are broken. -/
def resolved (c : Config) (ix : Index) (spans : SpanTable) : Index :=
  (ix.matched c spans).index.resolveLinks (ix.parentContext c spans)

/-- The outcome of the search for the parent of a symbol. -/
def resolution (c : Config) (ix : Index) (spans : SpanTable) (s : Symbol) : Resolution :=
  .of (ix.parentContext c spans) (ix.matched c spans).index s

/-- The parent link of `a` is there before and not after. -/
def LosesLink (before after : Index) (a : String) : Prop :=
  ∃ b, before.ParentLink a b ∧ ¬after.ParentLink a b

variable (c : Config) (ix : Index) (spans : SpanTable)

/-! ## The stages -/

theorem reconcile_index : (ix.reconcile c spans).index = (ix.resolved c spans).breakCycles := rfl

theorem reconcile_cyclesBroken :
    (ix.reconcile c spans).report.cyclesBroken = (ix.resolved c spans).cycleCuts.length :=
  Nat.zero_add _

theorem reconcile_selfParents : (ix.reconcile c spans).report.selfParents =
    (ix.matched c spans).index.all.countP fun s => (ix.resolution c spans s).selfFound := by
  refine (Nat.zero_add _).trans ?_
  rw [List.countP_map]
  rfl

theorem get?_resolved (id : String) : (ix.resolved c spans).get? id =
    ((ix.matched c spans).index.get? id).map fun s =>
      (s.adopt (ix.resolution c spans s)).moveAlias (ix.matched c spans).claims :=
  get?_mapSymbols ..

theorem contains_resolved (id : String) :
    (ix.resolved c spans).contains id = (ix.matched c spans).index.contains id :=
  contains_mapSymbols ..

theorem contains_foldl_orphan (id : String) (l : List String) : ∀ ix : Index,
    (l.foldl orphan ix).contains id = ix.contains id := by
  induction l with
  | nil => exact fun _ => rfl
  | cons a l ih => exact fun ix => (ih _).trans (contains_modify ..)

theorem contains_breakCycles (id : String) : ix.breakCycles.contains id = ix.contains id :=
  contains_foldl_orphan id _ ix

variable {c ix spans}

/-- Where matching finds no parents, the parents in place are those that were found. -/
theorem resolution_of_parent? (hn : ∀ s ∈ ix.all, s.parentId = none) {a p : String}
    (h : (ix.resolved c spans).ParentLink a p) :
    ∃ s, (ix.matched c spans).index.get? a = some s ∧
      (ix.resolution c spans s).parent = some p := by
  rw [ParentLink, parent?, get?_resolved, Option.bind_eq_some_iff] at h
  obtain ⟨t, ht, hp⟩ := h
  obtain ⟨s, hs, rfl⟩ := Option.map_eq_some_iff.1 ht
  have hnone : s.parentId = none :=
    parentId_matchSpans (fun s hs => hn s (mem_all_of_retain hs)) (mem_all.2 ⟨a, hs⟩)
  refine ⟨s, hs, ?_⟩
  simpa [Symbol.moveAlias, Symbol.adopt, hnone] using hp

/-! ## Links that are removed -/

theorem losesLink_breakCycles_iff (ix : Index) (a : String) :
    LosesLink ix ix.breakCycles a ↔ a ∈ ix.cycleCuts := by
  unfold LosesLink ParentLink
  simp only [parent?_breakCycles]
  refine ⟨?_, ?_⟩
  · rintro ⟨b, hb, hn⟩
    by_contra h
    exact hn (by rwa [if_neg h])
  · intro h
    obtain ⟨b, hb⟩ := ((cycleCuts_cutsCycles ix).onCycle a h).exists_link
    exact ⟨b, hb, by simp [h]⟩

/-- In a reconciled index no chain of parents comes back to an id. Compared with the links that
were resolved none is new, each cycle has lost one link and nothing else is lost, and the report
counts the cycles. Where no symbol came with a parent, every parent is a symbol of the result. -/
theorem reconcile_acyclic (c : Config) (ix : Index) (spans : SpanTable) :
    let before := ix.resolved c spans
    let after := (ix.reconcile c spans).index
    (∀ a, ¬after.OnCycle a) ∧
      (∀ a b, after.ParentLink a b → before.ParentLink a b) ∧
      (∀ cycle, before.IsCycle cycle → ∃! a, a ∈ cycle ∧ LosesLink before after a) ∧
      (∀ a, LosesLink before after a → before.OnCycle a) ∧
      {cycle | before.IsCycle cycle}.encard = (ix.reconcile c spans).report.cyclesBroken ∧
      ((∀ s ∈ ix.all, s.parentId = none) →
        ∀ a b, after.ParentLink a b → after.contains b = true) := by
  intro before after
  have hcuts : before.CutsCycles before.cycleCuts := cycleCuts_cutsCycles before
  have hloses : ∀ a, LosesLink before after a ↔ a ∈ before.cycleCuts :=
    losesLink_breakCycles_iff before
  refine ⟨?acyclic, ?kept, ?one, ?only, ?count, ?known⟩
  case acyclic => exact breakCycles_acyclic before
  case kept => exact breakCycles_keepsLinksOf before
  case one =>
    intro cycle hc
    simp only [hloses]
    exact hcuts.existsUnique hc
  case only => exact fun a h => hcuts.onCycle a ((hloses a).1 h)
  case count => rw [hcuts.encard, reconcile_cyclesBroken]
  case known =>
    intro hn a b h
    obtain ⟨s, -, hp⟩ := resolution_of_parent? hn (breakCycles_keepsLinksOf before a b h)
    refine (contains_breakCycles before b).trans ((contains_resolved c ix spans b).trans ?_)
    exact (Resolution.mem_of_parent hp).2

/-- Two namespaces whose declarations name each other as their container. -/
def mutualIndex : Index :=
  let declared := fun (id container : String) => {
    id, name := id, kind := .nameSpace, declaration := some ⟨"f", .lines 1 1⟩
    references := [⟨⟨RefKind.declaration⟩, ⟨"f", .lines 1 1⟩, some container⟩] : Symbol }
  .ofSymbols [declared "a" "b", declared "b" "a"]

/-- One of two containers of each other stays a parent. -/
theorem reconcile_mutual :
    (∀ s ∈ mutualIndex.all, s.parentId = none) ∧
      (mutualIndex.reconcile {} ∅).report.cyclesBroken = 1 ∧
      ∀ a b, (mutualIndex.reconcile {} ∅).index.ParentLink a b →
        (mutualIndex.reconcile {} ∅).index.contains b = true := by
  have hn : ∀ s ∈ mutualIndex.all, s.parentId = none := by decide
  exact ⟨hn, by decide, (reconcile_acyclic {} mutualIndex ∅).2.2.2.2.2 hn⟩

end SymbolAtlas.Index
