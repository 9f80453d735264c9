import SymbolAtlas.Proofs.Merge

/-!
# Merging either way round

Two indexes may describe a symbol in different detail. A merge keeps the details of the first
description (`Symbol.details_absorb`), and of everything else what either has. So the two ways round
agree, and nothing is lost, exactly where the details of shared symbols are the same
(`merge_agrees_iff`).
-/

namespace SymbolAtlas

/-! ## Details -/

/-- A text, where an empty one is absent. -/
def present (text : String) : Option String := if text = "" then none else some text

theorem present_injective {x y : String} (h : present x = present y) : x = y := by
  have hget : ∀ t, (present t).getD "" = t := fun t => by
    unfold present
    split
    · next e => rw [e, Option.getD_none]
    · rfl
  rw [← hget x, h, hget]

namespace Symbol

/-- What describes a symbol besides its name, kind and places. -/
def details (s : Symbol) : List (Option String) :=
  [present s.scope, present s.language, present s.signature, present s.returnType,
    present s.typeName, s.aliasedKind, s.aliasedSpelling]

/-- The two have one name and one kind, and the same of every detail that both have. -/
@[mk_iff] structure Compatible (s t : Symbol) : Prop where
  name : s.name = t.name
  kind : s.kind = t.kind
  details : List.Forall₂ (fun x y => x = y ∨ x = none ∨ y = none) s.details t.details

instance (s t : Symbol) : Decidable (s.Compatible t) := decidable_of_iff' _ (compatible_iff s t)

/-- Whatever `s` has, `m` has it too. -/
structure CoveredBy (s m : Symbol) : Prop where
  id : s.id = m.id
  name : s.name = m.name
  kind : s.kind = m.kind
  definition : s.definition.isSome = true → m.definition.isSome = true
  declaration : s.declaration.isSome = true → m.declaration.isSome = true
  body : s.body.isSome = true → m.body.isSome = true
  parentId : s.parentId.isSome = true → m.parentId.isSome = true
  aliasedId : s.aliasedId.isSome = true → m.aliasedId.isSome = true
  details : List.Forall₂ (fun x y => x.isSome = true → y.isSome = true) s.details m.details
  references : ∀ r ∈ s.references, r ∈ m.references

def withoutReferences (s : Symbol) : Symbol := { s with references := [] }

@[simp] theorem details_absorb (s t : Symbol) : (s.absorb t).details = s.details := rfl

@[simp] theorem details_withoutReferences (s : Symbol) : s.withoutReferences.details = s.details :=
  rfl

theorem absorb_comm {s t : Symbol} (hid : s.id = t.id) (hc : s.Compatible t)
    (hd : s.details = t.details) :
    (s.absorb t).withoutReferences = (t.absorb s).withoutReferences := by
  simp only [details, List.cons.injEq, and_true] at hd
  obtain ⟨hscope, hlanguage, hsignature, hreturn, htype, hkind, hspelling⟩ := hd
  simp only [withoutReferences, absorb_eq, hid, hc.name, hc.kind, present_injective hscope,
    present_injective hlanguage, present_injective hsignature, present_injective hreturn,
    present_injective htype, hkind, hspelling, keepMin_comm s.definition t.definition,
    keepMin_comm s.declaration t.declaration, keepMin_comm s.body t.body,
    keepMin_comm s.parentId t.parentId, keepMin_comm s.aliasedId t.aliasedId]

theorem forall₂_isSome_refl (l : List (Option String)) :
    List.Forall₂ (fun x y => x.isSome = true → y.isSome = true) l l :=
  List.forall₂_same.2 fun _ _ h => h

theorem coveredBy_self (s : Symbol) : s.CoveredBy s :=
  ⟨rfl, rfl, rfl, fun h => h, fun h => h, fun h => h, fun h => h, fun h => h, forall₂_isSome_refl _,
    fun _ h => h⟩

theorem isSome_keepMin {α : Type} [Ord α] (a b : Option α) :
    (keepMin a b).isSome = true ↔ a.isSome = true ∨ b.isSome = true := by
  rw [keepMin_eq, Option.isSome_merge, Bool.or_eq_true]

theorem coveredBy_absorb (s t : Symbol) : s.CoveredBy (s.absorb t) where
  id := rfl
  name := rfl
  kind := rfl
  definition h := (isSome_keepMin ..).2 (.inl h)
  declaration h := (isSome_keepMin ..).2 (.inl h)
  body h := (isSome_keepMin ..).2 (.inl h)
  parentId h := (isSome_keepMin ..).2 (.inl h)
  aliasedId h := (isSome_keepMin ..).2 (.inl h)
  details := forall₂_isSome_refl s.details
  references _ h := mem_unite.2 (.inl h)

theorem coveredBy_absorb_right {s t : Symbol} (hid : s.id = t.id) (hc : s.Compatible t)
    (hd : s.details = t.details) : t.CoveredBy (s.absorb t) where
  id := hid.symm
  name := hc.name.symm
  kind := hc.kind.symm
  definition h := (isSome_keepMin ..).2 (.inr h)
  declaration h := (isSome_keepMin ..).2 (.inr h)
  body h := (isSome_keepMin ..).2 (.inr h)
  parentId h := (isSome_keepMin ..).2 (.inr h)
  aliasedId h := (isSome_keepMin ..).2 (.inr h)
  details := by
    rw [details_absorb, hd]
    exact forall₂_isSome_refl t.details
  references _ h := mem_unite.2 (.inr h)

end Symbol

/-! ## Indexes -/

namespace Index

variable {a b : Index}

/-- `P` holds of the two symbols under every shared id. -/
def OnShared (P : Symbol → Symbol → Prop) (a b : Index) : Prop :=
  ∀ id s t, a.get? id = some s → b.get? id = some t → P s t

instance (P : Symbol → Symbol → Prop) [∀ s t, Decidable (P s t)] (a b : Index) :
    Decidable (OnShared P a b) :=
  decidable_of_iff (∀ e ∈ a.symbols.entries, ∀ t ∈ b.get? e.1, P e.2 t)
    ⟨fun h id s t hs ht => h (id, s) (Table.get?_eq_some_iff.1 hs) t ht,
      fun h e he t ht => h e.1 e.2 t (Table.get?_eq_some_iff.2 he) ht⟩

/-- The two are the same, but for the order and the repetitions of references. -/
structure Agrees (a b : Index) : Prop where
  symbols : ∀ id, (a.get? id).map (·.withoutReferences) = (b.get? id).map (·.withoutReferences)
  references : OnShared (fun s t => ∀ r, r ∈ s.references ↔ r ∈ t.references) a b
  callables : a.callables = b.callables
  hasContainers : a.hasContainers = b.hasContainers
  hasCallKind : a.hasCallKind = b.hasCallKind
  inheritance : a.inheritance = b.inheritance
  overrides : a.overrides = b.overrides

section Agreement
variable (ha : a.WellFormed) (hb : b.WellFormed)
include ha hb

/-- What does not depend on which of two symbols takes up the other is the same either way round. -/
theorem map_get?_merge_comm {β : Type} {f : Symbol → β}
    (h : OnShared (fun s t => f (s.absorb t) = f (t.absorb s)) a b) (id : String) :
    ((a.merge b).get? id).map f = ((b.merge a).get? id).map f := by
  rw [get?_merge hb.toKeyed, get?_merge ha.toKeyed]
  cases hs : a.get? id with
  | none => cases b.get? id <;> rfl
  | some s =>
    cases ht : b.get? id with
    | none => rfl
    | some t => exact congrArg some (h id s t hs ht)

theorem mem_references_merge {id : String} {s t : Symbol} (hs : (a.merge b).get? id = some s)
    (ht : (b.merge a).get? id = some t) (r : Reference) :
    r ∈ s.references ↔ r ∈ t.references := by
  have hmap := map_get?_merge_comm ha hb (f := fun s r => r ∈ s.references)
    (fun _ _ _ _ _ => funext fun _ => propext (mem_unite.trans (or_comm.trans mem_unite.symm))) id
  rw [hs, ht] at hmap
  exact iff_of_eq (congrFun (Option.some.inj hmap) r)

theorem merge_agrees (hc : OnShared Symbol.Compatible a b)
    (hd : OnShared (fun s t => s.details = t.details) a b) : (a.merge b).Agrees (b.merge a) where
  symbols := map_get?_merge_comm ha hb fun id s t hs ht => by
    have hid : s.id = t.id := (ha.toKeyed.id_of_get? hs).trans (hb.toKeyed.id_of_get? ht).symm
    exact Symbol.absorb_comm hid (hc id s t hs ht) (hd id s t hs ht)
  references _ _ _ hs ht := mem_references_merge ha hb hs ht
  callables := (ha.merge hb).callables_eq (hb.merge ha) (map_get?_merge_comm ha hb
    fun id s t hs ht => congrArg SymbolKind.isCallable (hc id s t hs ht).kind)
  hasContainers := Bool.or_comm ..
  hasCallKind := Bool.or_comm ..
  inheritance := mergeRelations_comm ..
  overrides := mergeRelations_comm ..

/-- Either way round, a merge keeps the details of the symbol that was there first. -/
theorem details_eq_of_agrees (h : (a.merge b).Agrees (b.merge a)) :
    OnShared (fun s t => s.details = t.details) a b := by
  intro id s t hs ht
  have heq := h.symbols id
  rw [get?_merge hb.toKeyed, get?_merge ha.toKeyed, hs, ht, Option.merge_some_some,
    Option.merge_some_some, Option.map_some, Option.map_some] at heq
  simpa using congrArg Symbol.details (Option.some.inj heq)

theorem exists_coveredBy (hc : OnShared Symbol.Compatible a b)
    (hd : OnShared (fun s t => s.details = t.details) a b) {id : String} {s : Symbol}
    (hs : a.get? id = some s ∨ b.get? id = some s) :
    ∃ m, (a.merge b).get? id = some m ∧ s.CoveredBy m := by
  rw [get?_merge hb.toKeyed]
  rcases hs with hs | hs
  · cases ht : b.get? id with
    | none => exact ⟨s, by rw [hs, Option.merge_none_right], s.coveredBy_self⟩
    | some t => exact ⟨_, by rw [hs]; rfl, s.coveredBy_absorb t⟩
  · cases ht : a.get? id with
    | none => exact ⟨s, by rw [hs, Option.merge_none_left], s.coveredBy_self⟩
    | some t =>
      have hid : t.id = s.id := (ha.toKeyed.id_of_get? ht).trans (hb.toKeyed.id_of_get? hs).symm
      exact ⟨_, by rw [hs]; rfl,
        Symbol.coveredBy_absorb_right hid (hc id t s ht hs) (hd id t s ht hs)⟩

/-- Where shared symbols do not contradict each other, both ways round agree and lose nothing
exactly if the shared symbols have the same details. -/
theorem merge_agrees_iff (hc : OnShared Symbol.Compatible a b) :
    ((a.merge b).Agrees (b.merge a) ∧
      ∀ id s, a.get? id = some s ∨ b.get? id = some s →
        ∃ m, (a.merge b).get? id = some m ∧ s.CoveredBy m) ↔
      OnShared (fun s t => s.details = t.details) a b :=
  ⟨fun h => details_eq_of_agrees ha hb h.1,
    fun hd => ⟨merge_agrees ha hb hc hd, fun _ _ hs => exists_coveredBy ha hb hc hd hs⟩⟩

end Agreement

/-- The function without its scope. -/
def scopelessIndex : Index := .ofSymbols [{ id := "f", name := "f", kind := .function }]

/-- Declaration and definition of a function come together either way round. The one that comes
first keeps its repetitions. -/
theorem merge_declared :
    OnShared Symbol.Compatible declaredIndex definedIndex ∧
      (declaredIndex.merge definedIndex).Agrees (definedIndex.merge declaredIndex) ∧
      ((declaredIndex.merge definedIndex).get? "f").map (·.references.length) = some 3 ∧
      ((definedIndex.merge declaredIndex).get? "f").map (·.references.length) = some 2 ∧
      ∃ s m, definedIndex.get? "f" = some s ∧
        (declaredIndex.merge definedIndex).get? "f" = some m ∧ s.CoveredBy m := by
  have ha : declaredIndex.WellFormed := .ofSymbols _
  have hb : definedIndex.WellFormed := .ofSymbols _
  have hc : OnShared Symbol.Compatible declaredIndex definedIndex := by decide
  obtain ⟨hagree, hcover⟩ := (merge_agrees_iff ha hb hc).2 (by decide)
  obtain ⟨s, hs⟩ : ∃ s, definedIndex.get? "f" = some s := contains_iff.1 (by decide)
  obtain ⟨m, hm, hsm⟩ := hcover "f" s (.inr hs)
  exact ⟨hc, hagree, by cbv, by cbv, s, m, hs, hm, hsm⟩

/-- The scope of a function is lost where the description without it comes first. -/
theorem merge_scope_lost :
    scopelessIndex.WellFormed ∧ definedIndex.WellFormed ∧
      OnShared Symbol.Compatible scopelessIndex definedIndex ∧
      ((scopelessIndex.merge definedIndex).get? "f").map (·.scope) = some "" ∧
      ¬(scopelessIndex.merge definedIndex).Agrees (definedIndex.merge scopelessIndex) := by
  refine ⟨.ofSymbols _, .ofSymbols _, by decide, by decide, fun h => ?_⟩
  have hscope := congrArg (Option.map Symbol.scope) (h.symbols "f")
  exact absurd hscope (by decide)

end Index

end SymbolAtlas
