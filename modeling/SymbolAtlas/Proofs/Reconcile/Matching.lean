import Mathlib.Data.List.Induction
import SymbolAtlas.Proofs.Index
import SymbolAtlas.Proofs.Reconcile.Located
import SymbolAtlas.Reconcile

/-!
# What matching makes of symbols and spans

After matching a symbol is either a symbol from before, with the body of the first span it claimed,
or a span that became a symbol (`of_get?_matchSpans`). `get?_claimants` says which symbol claims the
spans at a site, `exists_of_owner` who owns a span, `mem_unclaimed` which spans are nobody's, and
`Resolution.mem_of_parent` that a parent is one of the candidates.
-/

namespace SymbolAtlas

variable {ix : Index} {id : String} {s : Symbol}

/-! ## Claims -/

namespace Claims

variable {l : SpanLookup}

theorem claimants_append_of_none (hs : s.site = none) (symbols : List Symbol) :
    claimants l (symbols ++ [s]) = claimants l symbols := by
  simp only [claimants, List.foldl_append, List.foldl_cons, List.foldl_nil, hs]

theorem claimants_append_of_some {site : NameSite} (hs : s.site = some site)
    (symbols : List Symbol) : claimants l (symbols ++ [s]) =
      if l.variants.contains site then (claimants l symbols).insertNew site s.id
      else claimants l symbols := by
  simp only [claimants, List.foldl_append, List.foldl_cons, List.foldl_nil, hs]

/-- The first symbol at a site that has spans claims it. -/
theorem get?_claimants {site : NameSite} (hl : l.variants.contains site = true)
    (symbols : List Symbol) : (claimants l symbols).get? site =
      (symbols.find? fun s => s.site = some site).map (·.id) := by
  induction symbols using List.reverseRecOn with
  | nil => rfl
  | append_singleton symbols s ih =>
    rw [List.find?_append, Option.map_or, ← ih]
    cases hs : s.site with
    | none =>
      rw [claimants_append_of_none hs]
      simp [hs]
    | some other =>
      by_cases e : site = other
      · subst e
        simp [claimants_append_of_some hs, hs, hl, Table.get?_insertNew]
      · have hother : (claimants l (symbols ++ [s])).get? site = (claimants l symbols).get? site := by
          rw [claimants_append_of_some hs]
          split
          · rw [Table.get?_insertNew, if_neg e]
          · rfl
        rw [hother]
        simp [hs, Ne.symm e]

/-- A site with spans is unclaimed if no symbol has its name there. -/
theorem contains_claimants_eq_false {site : NameSite} (hl : l.variants.contains site = true)
    (symbols : List Symbol) : (claimants l symbols).contains site = false ↔
      ∀ s ∈ symbols, s.site ≠ some site := by
  rw [Table.contains, get?_claimants hl]
  simp

variable {claimants : Table NameSite String} {symbols : List Symbol} {a : Span} {q y : String}

theorem mem_atSite_of_mem_spansOf (h : a ∈ spansOf l claimants s) : a ∈ l.atSite s := by
  unfold spansOf at h
  split at h
  · next site hs =>
    split at h
    · rwa [SpanLookup.atSite, hs]
    · cases h
  · cases h

/-- The claims of symbols as pairs of a span and who claims it. -/
def pairs (l : SpanLookup) (claimants : Table NameSite String) (symbols : List Symbol) :
    List (String × String) :=
  symbols.flatMap fun s => (spansOf l claimants s).map fun a => (a.id, s.id)

theorem mem_pairs : (q, y) ∈ pairs l claimants symbols ↔
    ∃ s ∈ symbols, s.id = y ∧ ∃ a ∈ spansOf l claimants s, a.id = q := by
  simp only [pairs, List.mem_flatMap, List.mem_map, Prod.mk.injEq]
  refine ⟨?_, ?_⟩
  · rintro ⟨s, hs, a, ha, rfl, rfl⟩
    exact ⟨s, hs, rfl, a, ha, rfl⟩
  · rintro ⟨s, hs, rfl, a, ha, rfl⟩
    exact ⟨s, hs, a, ha, rfl, rfl⟩

theorem ofSymbols_eq : ofSymbols l claimants symbols =
    (pairs l claimants symbols).foldl (fun c e => c.claim e.1 e.2) ∅ := by
  simp only [ofSymbols, pairs, List.foldl_flatMap, List.foldl_map]

/-- The owners of spans are listed by the claims. -/
theorem owner_ofSymbols :
    (ofSymbols l claimants symbols).owner = Table.ofList (pairs l claimants symbols) := by
  rw [ofSymbols_eq]
  exact (List.foldl_hom owner fun _ _ => rfl).symm

/-- The owner of a span is a symbol that claimed it. -/
theorem exists_of_owner (h : (ofSymbols l claimants symbols).owner.get? q = some y) :
    ∃ s ∈ symbols, s.id = y ∧ ∃ a ∈ spansOf l claimants s, a.id = q := by
  rw [owner_ofSymbols] at h
  exact mem_pairs.1 (Table.mem_of_get?_ofList h)

end Claims

/-! ## Symbols after matching -/

section TakeBody
variable (spans : List Span) (s : Symbol)

@[simp] theorem Symbol.takeBody_id : (s.takeBody spans).id = s.id := by
  cases spans <;> rfl

@[simp] theorem Symbol.takeBody_kind : (s.takeBody spans).kind = s.kind := by
  cases spans <;> rfl

@[simp] theorem Symbol.takeBody_parentId : (s.takeBody spans).parentId = s.parentId := by
  cases spans <;> rfl

@[simp] theorem Symbol.takeBody_references : (s.takeBody spans).references = s.references := by
  cases spans <;> rfl

@[simp] theorem Symbol.takeBody_declaration : (s.takeBody spans).declaration = s.declaration := by
  cases spans <;> rfl

@[simp] theorem Symbol.takeBody_definition : (s.takeBody spans).definition = s.definition := by
  cases spans <;> rfl

@[simp] theorem Symbol.takeBody_site : (s.takeBody spans).site = s.site := by
  cases spans <;> rfl

theorem Symbol.takeBody_eq :
    s.takeBody spans = { s with body := (spans.head?.map (·.body)).or s.body } := by
  cases spans <;> rfl

theorem Symbol.takeBody_body :
    (s.takeBody spans).body = (spans.head?.map (·.body)).or s.body := by
  cases spans <;> rfl

end TakeBody

namespace Index

variable {file : String} {a : Span} {l : List (String × Span)} {look : SpanLookup} {c : Config}

theorem get?_addSpan (ix : Index) (file : String) (a : Span) (id : String) :
    (ix.addSpan file a).get? id =
      if a.id = id then (ix.get? id).or (some (a.symbol file)) else ix.get? id := by
  unfold addSpan
  split
  · next h =>
    obtain ⟨s, hs⟩ := contains_iff.1 h
    split
    · next e => rw [← e, hs, Option.some_or]
    · rfl
  · next h =>
    rw [get?_insert, show (a.symbol file).id = a.id from rfl]
    by_cases e : a.id = id
    · subst e
      rw [if_pos rfl, if_pos rfl, get?_eq_none (Bool.eq_false_iff.2 h), Option.none_or]
    · rw [if_neg (Ne.symm e), if_neg e]

/-- What was there stays, and of several spans with one free id the first becomes the symbol. -/
theorem get?_foldl_addSpan (l : List (String × Span)) : ∀ ix : Index,
    (l.foldl (fun ix p => ix.addSpan p.1 p.2) ix).get? id =
      (ix.get? id).or ((l.find? fun p => p.2.id = id).map fun p => p.2.symbol p.1) := by
  induction l with
  | nil => exact fun _ => Option.or_none.symm
  | cons p l ih =>
    intro ix
    rw [List.foldl_cons, ih, get?_addSpan]
    by_cases e : p.2.id = id
    · simp [e]
    · simp [e]

/-- The symbols before and the spans that were added share the ids. -/
theorem contains_foldl_addSpan (l : List (String × Span)) (ix : Index) :
    (l.foldl (fun ix p => ix.addSpan p.1 p.2) ix).contains id = true ↔
      ix.contains id = true ∨ ∃ p ∈ l, p.2.id = id := by
  rw [Index.contains, Table.contains, ← get?, get?_foldl_addSpan, Option.isSome_or,
    Bool.or_eq_true, Option.isSome_map, List.find?_isSome]
  simp only [decide_eq_true_eq]
  rfl

/-- The spans that no symbol claimed, with their files. -/
def unclaimed (look : SpanLookup) (claimants : Table NameSite String) : List (String × Span) :=
  (look.variants.entries.filter fun e => !claimants.contains e.1).flatMap fun e =>
    e.2.map (e.1.file, ·)

theorem synthesize_eq (ix : Index) (look : SpanLookup) (claimants : Table NameSite String) :
    ix.synthesize look claimants =
      (unclaimed look claimants).foldl (fun ix p => ix.addSpan p.1 p.2) ix := by
  simp only [synthesize, unclaimed, List.foldl_flatMap, List.foldl_map]

/-- No symbol has its name where the span has it. -/
def Unmatched (ix : Index) (p : String × Span) : Prop :=
  ∀ s ∈ ix.all, s.site ≠ some (p.2.site p.1)

instance (ix : Index) (p : String × Span) : Decidable (ix.Unmatched p) :=
  inferInstanceAs (Decidable (∀ s ∈ ix.all, _))

/-- What no symbol claimed are the spans of the forest that match no symbol. -/
theorem mem_unclaimed {forest : SpanForest} {p : String × Span} :
    p ∈ unclaimed (.ofForest forest) (Claims.claimants (.ofForest forest) ix.all) ↔
      p ∈ SpanLookup.located forest ∧ ix.Unmatched p := by
  unfold unclaimed Unmatched
  rw [List.mem_flatMap]
  refine ⟨?_, ?_⟩
  · rintro ⟨e, he, hp⟩
    obtain ⟨he, hfree⟩ := List.mem_filter.1 he
    obtain ⟨a, ha, rfl⟩ := List.mem_map.1 hp
    have hget := Table.get?_eq_some_iff.2 he
    have hvariant : a ∈ (SpanLookup.ofForest forest).variants.getD e.1 [] := by
      rwa [Table.getD, hget]
    obtain ⟨hm, hsite⟩ := SpanLookup.mem_variants.1 hvariant
    rw [Bool.not_eq_true', Claims.contains_claimants_eq_false (Table.contains_iff.2 ⟨_, hget⟩)]
      at hfree
    exact ⟨hm, by rwa [hsite]⟩
  · rintro ⟨hm, hnone⟩
    obtain ⟨spans, hget, ha⟩ := SpanLookup.exists_variants hm
    refine ⟨(p.2.site p.1, spans), List.mem_filter.2 ⟨Table.get?_eq_some_iff.1 hget, ?_⟩,
      List.mem_map.2 ⟨p.2, ha, rfl⟩⟩
    rw [Bool.not_eq_true', Claims.contains_claimants_eq_false (Table.contains_iff.2 ⟨_, hget⟩)]
    exact hnone

/-- The spans that a symbol of `ix` claims. -/
abbrev claimedBy (ix : Index) (look : SpanLookup) (s : Symbol) : List Span :=
  Claims.spansOf look (Claims.claimants look ix.all) s

/-- A symbol from before stays, with the body of the first span it claims. -/
theorem get?_matchSpans_of_known (h : ix.get? id = some s) :
    (ix.matchSpans c look).index.get? id = some (s.takeBody (ix.claimedBy look s)) := by
  have hb : (ix.mapSymbols fun s => s.takeBody (ix.claimedBy look s)).get? id =
      some (s.takeBody (ix.claimedBy look s)) := by
    rw [get?_mapSymbols, h, Option.map_some]
  simp only [matchSpans]
  split
  · rw [synthesize_eq, get?_foldl_addSpan, hb, Option.some_or]
  · exact hb

/-- Every symbol after matching is one from before or a span. -/
theorem of_get?_matchSpans {forest : SpanForest}
    (h : (ix.matchSpans c (.ofForest forest)).index.get? id = some s) :
    (∃ t, ix.get? id = some t ∧ s = t.takeBody (ix.claimedBy (.ofForest forest) t)) ∨
      ∃ file a, (file, a) ∈ SpanLookup.located forest ∧ a.id = id ∧ s = a.symbol file := by
  have before : (ix.mapSymbols fun s => s.takeBody (ix.claimedBy (.ofForest forest) s)).get? id =
      some s → ∃ t, ix.get? id = some t ∧ s = t.takeBody (ix.claimedBy (.ofForest forest) t) := by
    rw [get?_mapSymbols, Option.map_eq_some_iff]
    exact fun ⟨t, ht, e⟩ => ⟨t, ht, e.symm⟩
  simp only [matchSpans] at h
  split at h
  · rw [synthesize_eq, get?_foldl_addSpan, Option.or_eq_some_iff] at h
    rcases h with h | ⟨-, h⟩
    · exact .inl (before h)
    · obtain ⟨p, hp, rfl⟩ := Option.map_eq_some_iff.1 h
      have hid : p.2.id = id := by simpa using List.find?_some hp
      exact .inr ⟨p.1, p.2, (mem_unclaimed.1 (List.mem_of_find?_eq_some hp)).1, hid, rfl⟩
  · exact .inl (before h)

/-- Matching keeps every symbol and adds the spans that match none, if it is to. -/
theorem contains_matchSpans {forest : SpanForest} :
    (ix.matchSpans c (.ofForest forest)).index.contains id = true ↔
      ix.contains id = true ∨ (c.synthesizeUnmatched = true ∧
        ∃ p ∈ SpanLookup.located forest, ix.Unmatched p ∧ p.2.id = id) := by
  simp only [matchSpans]
  split
  · next hc =>
    rw [synthesize_eq, contains_foldl_addSpan, contains_mapSymbols]
    simp only [mem_unclaimed, hc, true_and, and_assoc]
  · next hc => simp [hc, contains_mapSymbols]

/-- What holds once the bodies are taken and is kept by inserting a span with a free id holds after
matching. -/
theorem matchSpans_induction {P : Index → Prop}
    (hbodied : P (ix.mapSymbols fun s => s.takeBody (ix.claimedBy look s)))
    (hinsert : ∀ jx file (a : Span), jx.contains a.id = false → P jx →
      P (jx.insert (a.symbol file)))
    (c : Config) : P (ix.matchSpans c look).index := by
  have added : ∀ (l : List (String × Span)) (jx : Index), P jx →
      P (l.foldl (fun jx p => jx.addSpan p.1 p.2) jx) := by
    intro l
    induction l with
    | nil => exact fun _ h => h
    | cons p l ih =>
      intro jx h
      refine ih _ ?_
      show P (jx.addSpan p.1 p.2)
      unfold addSpan
      split
      · exact h
      · next hfree => exact hinsert jx p.1 p.2 (Bool.eq_false_iff.2 hfree) h
  simp only [matchSpans]
  split
  · rw [synthesize_eq]
    exact added _ _ hbodied
  · exact hbodied

theorem Keyed.matchSpans (h : ix.Keyed) (c : Config) (look : SpanLookup) :
    (ix.matchSpans c look).index.Keyed :=
  matchSpans_induction (h.mapSymbols fun s => s.takeBody_id _) (fun _ _ _ _ h => h.insert _) c

theorem WellFormed.matchSpans (h : ix.WellFormed) (c : Config) (look : SpanLookup) :
    (ix.matchSpans c look).index.WellFormed :=
  matchSpans_induction (h.mapSymbols (fun s => s.takeBody_id _) fun s => s.takeBody_kind _)
    (fun _ _ _ _ h => h.insert _) c

/-- An id from before counts as a callable if it did, and that of a span by the kind of the span. -/
theorem isCallable_matchSpans (hknown : ∀ id, ix.isCallable id = true → ix.contains id = true)
    (c : Config) (look : SpanLookup) (id : String) :
    (ix.matchSpans c look).index.isCallable id = if ix.contains id then ix.isCallable id
      else ((ix.matchSpans c look).index.get? id).any Symbol.isCallable := by
  refine (matchSpans_induction (P := fun jx => ∀ id,
    (ix.contains id = true → jx.contains id = true) ∧ jx.isCallable id =
      if ix.contains id then ix.isCallable id else (jx.get? id).any Symbol.isCallable)
    (fun id => ?bodied) (fun jx file a hfree h id => ?inserted) c id).2
  case bodied =>
    refine ⟨fun h => (contains_mapSymbols ..).trans h, ?_⟩
    show ix.isCallable id = _
    split
    · rfl
    · next hnew =>
      rw [get?_mapSymbols, get?_eq_none (Bool.eq_false_iff.2 hnew)]
      exact Bool.eq_false_iff.2 (mt (hknown id) hnew)
  case inserted =>
    have hnew : ¬ix.contains a.id = true := fun hin => by
      rw [(h a.id).1 hin] at hfree
      cases hfree
    obtain ⟨hkept, hcall⟩ := h id
    rw [isCallable_insert, contains_insert, get?_insert, show (a.symbol file).id = a.id from rfl]
    by_cases e : id = a.id
    · subst e
      rw [if_pos rfl, if_pos rfl, if_neg hnew]
      exact ⟨fun hin => absurd hin hnew, rfl⟩
    · rw [if_neg e, if_neg e]
      exact ⟨fun hin => .inr (hkept hin), hcall⟩

/-- Matching gives no symbol a parent. -/
theorem parentId_matchSpans {forest : SpanForest} (hn : ∀ s ∈ ix.all, s.parentId = none)
    (h : s ∈ (ix.matchSpans c (.ofForest forest)).index.all) : s.parentId = none := by
  obtain ⟨id, hid⟩ := mem_all.1 h
  rcases of_get?_matchSpans hid with ⟨t, ht, rfl⟩ | ⟨file, a, -, -, rfl⟩
  · rw [Symbol.takeBody_parentId]
    exact hn t (mem_all.2 ⟨id, ht⟩)
  · rfl

end Index

/-! ## Candidates -/

namespace Resolution

variable {known : String → Bool} {self : String} {cs : List (Option String)}

/-- A parent that is found is a known candidate. -/
theorem mem_of_parent {p : String} (h : (settle known self cs).parent = some p) :
    some p ∈ cs ∧ known p = true := by
  induction cs with
  | nil => cases h
  | cons o cs ih =>
    cases o with
    | none => exact (ih h).imp_left (List.mem_cons_of_mem _)
    | some d =>
      unfold settle at h
      split at h
      · cases h
      · split at h
        · next hk =>
          cases h
          exact ⟨List.mem_cons_self .., hk⟩
        · exact (ih h).imp_left (List.mem_cons_of_mem _)

/-- The search ends at the symbol itself only if the symbol is a candidate. -/
theorem mem_of_selfFound (h : (settle known self cs).selfFound = true) : some self ∈ cs := by
  induction cs with
  | nil => cases h
  | cons o cs ih =>
    cases o with
    | none => exact List.mem_cons_of_mem _ (ih h)
    | some d =>
      unfold settle at h
      split at h
      · next e =>
        rw [e]
        exact List.mem_cons_self ..
      · split at h
        · cases h
        · exact List.mem_cons_of_mem _ (ih h)

end Resolution

end SymbolAtlas
