import SymbolAtlas.Proofs.Parents.Entry
import SymbolAtlas.Proofs.Reconcile.Acyclic

/-!
# Which link of a cycle a reconciliation removes

Every cycle of resolved parents loses one link (`reconcile_acyclic`). It is the one that leads to
where the chain from the first id that leads into the cycle enters it (`losesLink_reconcile_iff`).
That is the link to the first id of the cycle where no chain from an earlier id enters elsewhere, so
what hangs from a cycle can decide which of its links is lost (`reconcile_earlierTail`).
-/

namespace SymbolAtlas.Index

/-- Of each cycle of resolved parents the link is lost that leads to where it is entered from the
first id that leads into it. That is the link to the first id of the cycle exactly if it is entered
there, as it is where no id off the cycle comes before it. -/
theorem losesLink_reconcile_iff (c : Config) (ix : Index) (spans : SpanTable) {cycle : Set String}
    (hc : (ix.resolved c spans).IsCycle cycle) :
    let before := ix.resolved c spans
    let after := (ix.reconcile c spans).index
    ∃ start entry first, IsFirst {b | before.LeadsInto cycle b} start ∧
      before.Enters cycle start entry ∧ IsFirst cycle first ∧
      (∀ k ∈ cycle, LosesLink before after k ↔ before.ParentLink k entry) ∧
      ((∀ k ∈ cycle, LosesLink before after k ↔ before.ParentLink k first) ↔ entry = first) ∧
      (start ∈ cycle → entry = first) := by
  intro before after
  have hloses : ∀ k, LosesLink before after k ↔ k ∈ before.cycleCuts :=
    losesLink_breakCycles_iff before
  obtain ⟨x, hx⟩ : ∃ x, x ∈ cycle := ⟨_, hc.choose_spec.1⟩
  have hleads : ∀ b ∈ cycle, before.LeadsInto cycle b := fun b hb => ⟨b, .on hb⟩
  have hknown : ∀ b, before.LeadsInto cycle b → b ∈ before.ids := fun b hb => hb.known hc
  obtain ⟨start, hstart⟩ := exists_isFirst hknown (hleads x hx)
  obtain ⟨first, hfirst⟩ := exists_isFirst (fun b hb => hknown b (hleads b hb)) hx
  obtain ⟨entry, hentry⟩ := hstart.1
  have hcut : ∀ k ∈ cycle, LosesLink before after k ↔ before.ParentLink k entry := fun k hk =>
    (hloses k).trans (mem_cycleCuts_iff hc hstart hentry hk)
  refine ⟨start, entry, first, hstart, hentry, hfirst, hcut, ⟨fun h => ?_, ?_⟩, fun hon => ?_⟩
  · obtain ⟨k, hk, hl⟩ := hc.exists_link_to hfirst.1
    have hlost : LosesLink before after k := (h k hk).2 hl
    exact ((hcut k hk).1 hlost).unique hl
  · rintro rfl
    exact hcut
  · have hfirst' : IsFirst cycle start := ⟨hon, fun b hb => hstart.2 b (hleads b hb)⟩
    rw [hentry.unique (.on hon), hfirst'.unique hfirst]

/-- Two classes that are each other's parents, and one that hangs from the second. -/
def tailedIndex (tail : String) : Index :=
  let nested := fun (id parent : String) => {
    id, name := id, kind := .classType, definition := some ⟨"f", .lines 1 1⟩
    parentId := some parent : Symbol }
  .ofSymbols [nested "b" "c", nested "c" "b", nested tail "c"]

/-- The link to the first of the two is lost where the third comes after them. -/
theorem reconcile_laterTail :
    let before := (tailedIndex "d").resolved {} ∅
    let after := ((tailedIndex "d").reconcile {} ∅).index
    before.IsCycle {"b", "c"} ∧ IsFirst {"b", "c"} "b" ∧ before.ParentLink "d" "c" ∧
      ∀ k ∈ ({"b", "c"} : Set String), LosesLink before after k ↔ before.ParentLink k "b" := by
  intro before after
  have hc : before.IsCycle {"b", "c"} := isCycle_pair (by decide) (by decide)
  have hids : ∀ id ∈ before.ids, id ≠ "b" → compare "b" id = .lt := by decide
  have hb : IsFirst {"b", "c"} "b" := ⟨.inl rfl, fun id hid => hids id (hc.onCycle hid).known⟩
  have hleads : IsFirst {id | before.LeadsInto {"b", "c"} id} "b" :=
    ⟨⟨"b", .on (.inl rfl)⟩, fun id hid => hids id (hid.known hc)⟩
  obtain ⟨start, entry, first, hstart, -, hfirst, -, hrule, hon⟩ :=
    losesLink_reconcile_iff {} (tailedIndex "d") ∅ hc
  obtain rfl := hstart.unique hleads
  obtain rfl := hfirst.unique hb
  exact ⟨hc, hb, by decide, hrule.2 (hon (.inl rfl))⟩

/-- The link to the second is lost where the third comes before them. -/
theorem reconcile_earlierTail :
    let before := (tailedIndex "a").resolved {} ∅
    let after := ((tailedIndex "a").reconcile {} ∅).index
    before.IsCycle {"b", "c"} ∧ IsFirst {"b", "c"} "b" ∧ before.ParentLink "c" "b" ∧
      ¬LosesLink before after "c" ∧ LosesLink before after "b" := by
  intro before after
  have hc : before.IsCycle {"b", "c"} := isCycle_pair (by decide) (by decide)
  have hb : IsFirst {"b", "c"} "b" := by
    refine ⟨.inl rfl, ?_⟩
    rintro _ (rfl | rfl) hne
    · exact absurd rfl hne
    · decide
  have hcuts : before.cycleCuts = ["b"] := by decide
  have hloses : ∀ k, LosesLink before after k ↔ k ∈ before.cycleCuts :=
    losesLink_breakCycles_iff before
  rw [hloses, hloses, hcuts]
  exact ⟨hc, hb, by decide, by decide, by decide⟩

end SymbolAtlas.Index
