import SymbolAtlas.Proofs.Linker.Batches

/-!
# The format of linked and merged indexes

However documents are gathered, one by one or from linkers of other batches, the linker is the one
that was given all of them in a row (`Linker.Gathering.linker_eq_addAll`). What it links to has the
format of the references that are attached, that is, listed for a symbol that is described; those
for unknown ids may as well be dropped (`Linker.link_dropUnknown`). Merging keeps the format exact,
since it keeps all references (`Index.FormatExact.merge`). `Index.format_exact` puts this together.
-/

namespace SymbolAtlas

theorem RefKind.reachesCall_iff {k : RefKind} : k.reachesCall = true ↔ 16 ≤ k.bits :=
  decide_eq_true_iff

namespace Linker

open Document

/-! ## Gathering -/

/-- How a linker comes to hold what it holds. -/
inductive Gathering
  | new
  | add (g : Gathering) (doc : Document)
  /-- Take over what another linker has gathered. -/
  | extend (g other : Gathering)

namespace Gathering

def linker : Gathering → Linker
  | new => ∅
  | add g doc => g.linker.add doc
  | extend g other => g.linker.extend other.linker

/-- The documents in the order in which they come to count. -/
def documents : Gathering → List Document
  | new => []
  | add g doc => g.documents ++ [doc]
  | extend g other => g.documents ++ other.documents

end Gathering

/-- Extending by a linker is adding its documents. -/
theorem extend_addAll (l : Linker) (docs : List Document) :
    l.extend (addAll ∅ docs) = l.addAll docs := by
  have hsymbols : ∀ t : Table String Symbol,
      ((docs.filterMap description?).foldl (fun t d => t.insert d.id d.symbol) t) =
        ((docs.filterMap description?).map fun d => (d.id, d.symbol)).foldl
          (fun t e => t.insert e.1 e.2) t := fun t => by rw [List.foldl_map]
  rw [addAll_eq docs l, addAll_eq docs ∅, extend]
  simp only [hsymbols]
  exact (Linker.mk.injEq ..).mpr ⟨Table.foldl_insert_ofList _ _, rfl, rfl⟩

theorem Gathering.linker_eq_addAll (g : Gathering) : g.linker = addAll ∅ g.documents := by
  induction g with
  | new => rfl
  | add g doc ih =>
    rw [linker, ih, documents, addAll, addAll, List.foldl_append]
    rfl
  | extend g other ih ih' =>
    rw [linker, ih, ih', extend_addAll, documents]
    simp only [addAll, List.foldl_append]

theorem Gathering.link_linker (g : Gathering) : g.linker.link = Index.ofDocuments g.documents := by
  rw [linker_eq_addAll, Index.ofDocuments]

/-! ## References to the unknown -/

/-- The linker without the references to what nothing describes. -/
def dropUnknown (l : Linker) : Linker :=
  { l with references := l.references.filter fun d => l.symbols.contains d.id }

theorem foldl_attach_filter (refs : List RefsDoc) : ∀ state : Table String Symbol × Format,
    (refs.filter fun d => state.1.contains d.id).foldl attach state = refs.foldl attach state := by
  induction refs with
  | nil => exact fun _ => rfl
  | cons d refs ih =>
    intro state
    rw [List.filter_cons]
    split
    · have hsame : ∀ id, state.1.contains id = (attach state d).1.contains id := fun id =>
        (contains_attach state d id).symm
      simp only [List.foldl_cons, hsame]
      exact ih (attach state d)
    · next h =>
      have hskip : attach state d = state := if_neg h
      rw [List.foldl_cons, hskip]
      exact ih state

/-- References to the unknown make no difference. -/
theorem link_dropUnknown (l : Linker) : l.dropUnknown.link = l.link := by
  unfold link dropUnknown
  rw [foldl_attach_filter l.references (l.symbols, ⟨false, false⟩)]
  rfl

end Linker

/-! ## Exact formats -/

namespace Document

/-- The reference is listed for a symbol that is described. -/
def Attached (docs : List Document) (r : Reference) : Prop :=
  ∃ d ∈ docs.filterMap listing?, Described docs d.id ∧ r ∈ d.references

instance (docs : List Document) (r : Reference) : Decidable (Attached docs r) :=
  inferInstanceAs (Decidable (∃ d ∈ _, _))

theorem attached_iff {docs : List Document} {r : Reference} :
    Attached docs r ↔ ∃ id, Described docs id ∧ r ∈ listed docs id := by
  simp only [Attached, mem_listed]
  refine ⟨?_, ?_⟩
  · rintro ⟨d, hd, hdesc, hr⟩
    exact ⟨d.id, hdesc, d, hd, rfl, hr⟩
  · rintro ⟨id, hdesc, d, hd, rfl, hr⟩
    exact ⟨d, hd, hdesc, hr⟩

/-- What is attached does not depend on the order of the documents. -/
theorem attached_congr {docs docs' : List Document} (h : SameItems docs docs') (r : Reference) :
    Attached docs r ↔ Attached docs' r := by
  simp only [Attached, Described, List.mem_filterMap, h _]

end Document

namespace Index

open Document Linker

variable {a b ix : Index} {p q : Reference → Bool}

/-- What is attached are the references of the symbols. -/
theorem attached_iff_mem_references {docs : List Document} {r : Reference} :
    Attached docs r ↔ ∃ s ∈ (ofDocuments docs).all, r ∈ s.references := by
  simp only [attached_iff, ← mem_references_ofDocuments, mem_all]
  refine ⟨?_, ?_⟩
  · rintro ⟨id, s, hs, hr⟩
    exact ⟨s, ⟨id, hs⟩, hr⟩
  · rintro ⟨s, ⟨id, hs⟩, hr⟩
    exact ⟨id, s, hs, hr⟩

theorem hasReference_ofDocuments_iff (docs : List Document) :
    (ofDocuments docs).HasReference p ↔ ∃ r, Attached docs r ∧ p r = true := by
  simp only [HasReference, attached_iff, ← mem_references_ofDocuments]
  refine ⟨?_, ?_⟩
  · rintro ⟨id, s, hs, r, hr, hp⟩
    exact ⟨r, ⟨id, s, hs, hr⟩, hp⟩
  · rintro ⟨r, ⟨id, s, hs, hr⟩, hp⟩
    exact ⟨id, s, hs, r, hr, hp⟩

theorem hasReference_or :
    ix.HasReference (fun r => p r || q r) ↔ ix.HasReference p ∨ ix.HasReference q := by
  simp only [HasReference, Bool.or_eq_true, and_or_left, exists_or]

/-- The format says what the references carry. -/
structure FormatExact (ix : Index) : Prop where
  containers : ix.hasContainers = true ↔ ix.HasReference (·.containerId.isSome)
  calls : ix.hasCallKind = true ↔ ix.hasContainers = true ∨ ix.HasReference (·.kind.reachesCall)

theorem formatExact_ofDocuments (docs : List Document) : (ofDocuments docs).FormatExact := by
  obtain ⟨hcontainers, hcalls⟩ := format_ofDocuments docs
  refine ⟨hcontainers, hcalls.trans ?_⟩
  rw [hcontainers]
  exact hasReference_or

/-- A merge has the references of both indexes, and its format says so. -/
theorem FormatExact.merge (ha : a.FormatExact) (hb : b.FormatExact) (hk : b.Keyed) :
    (a.merge b).FormatExact where
  containers := by
    rw [hasReference_merge hk, ← ha.containers, ← hb.containers]
    exact Bool.or_eq_true_iff
  calls := by
    have hflag : (a.merge b).hasCallKind = true ↔ a.hasCallKind = true ∨ b.hasCallKind = true :=
      Bool.or_eq_true_iff
    have hcontainers : (a.merge b).hasContainers = true ↔
        a.hasContainers = true ∨ b.hasContainers = true :=
      Bool.or_eq_true_iff
    rw [hflag, hcontainers, hasReference_merge hk, ha.calls, hb.calls]
    exact or_or_or_comm

/-- The indexes that linking and merging make. -/
inductive Linked : Index → Prop
  | link (g : Gathering) : Linked g.linker.link
  | merge {a b : Index} (ha : Linked a) (hb : Linked b) : Linked (a.merge b)

theorem Linked.wellFormed (h : ix.Linked) : ix.WellFormed := by
  induction h with
  | link g => exact wellFormed_link _
  | merge _ _ iha ihb => exact iha.merge ihb

theorem Linked.formatExact (h : ix.Linked) : ix.FormatExact := by
  induction h with
  | link g => exact g.link_linker ▸ formatExact_ofDocuments _
  | merge _ hb iha ihb => exact iha.merge ihb hb.wellFormed.toKeyed

/-- However documents are gathered, what they link to has containers if and only if a reference that
is attached names one, and calls if and only if it has containers or the kind of a reference that is
attached reaches the call bit. The references that are attached are those of its symbols; without
those to the unknown the documents link to the same, and the order of the documents makes no
difference to the format. Linked indexes with containers have calls, and so have their merges. -/
theorem format_exact (g : Gathering) :
    let ix := g.linker.link
    (ix.hasContainers = true ↔ ∃ r, Attached g.documents r ∧ r.containerId.isSome = true) ∧
      (ix.hasCallKind = true ↔
        ix.hasContainers = true ∨ ∃ r, Attached g.documents r ∧ 16 ≤ r.kind.bits) ∧
      (∀ r, Attached g.documents r ↔ ∃ s ∈ ix.all, r ∈ s.references) ∧
      g.linker.dropUnknown.link = ix ∧
      (∀ g' : Gathering, SameItems g.documents g'.documents →
        g'.linker.link.hasContainers = ix.hasContainers ∧
          g'.linker.link.hasCallKind = ix.hasCallKind) ∧
      ∀ jx : Index, jx.Linked → jx.hasContainers = true → jx.hasCallKind = true := by
  intro ix
  have hcontainers : ∀ g : Gathering, g.linker.link.hasContainers = true ↔
      ∃ r, Attached g.documents r ∧ r.containerId.isSome = true := fun g => by
    rw [(Linked.link g).formatExact.containers, g.link_linker, hasReference_ofDocuments_iff]
  have hcalls : ∀ g : Gathering, g.linker.link.hasCallKind = true ↔
      g.linker.link.hasContainers = true ∨
        ∃ r, Attached g.documents r ∧ 16 ≤ r.kind.bits := fun g => by
    have hkind := hasReference_ofDocuments_iff (p := (·.kind.reachesCall)) g.documents
    rw [← g.link_linker] at hkind
    rw [(Linked.link g).formatExact.calls, hkind]
    simp only [RefKind.reachesCall_iff]
  refine ⟨hcontainers g, hcalls g, fun r => ?attached, link_dropUnknown _, fun g' hsame => ?order,
    fun jx hj hc => hj.formatExact.calls.2 (.inl hc)⟩
  case attached =>
    show _ ↔ ∃ s ∈ g.linker.link.all, _
    rw [g.link_linker]
    exact attached_iff_mem_references
  case order =>
    have hattached := attached_congr hsame
    have hflag : g'.linker.link.hasContainers = ix.hasContainers := by
      rw [Bool.eq_iff_iff, hcontainers, hcontainers]
      simp only [hattached]
    refine ⟨hflag, ?_⟩
    rw [Bool.eq_iff_iff, hcalls, hcalls, hflag]
    simp only [hattached, ix]

/-- A mention of a function, said to be in no symbol. -/
def outsideDoc : RefsDoc := ⟨"f", [⟨⟨4⟩, ⟨"d", .lines 3 3⟩, some Reference.nullContainer⟩]⟩

/-- The call of a function, gathered before its description, settles the question of calls. A
mention outside of symbols settles both questions for the merge, and for no index where it is about
something unknown. -/
theorem format_exact_uses :
    let calls : Gathering := (Gathering.new.add (.refs callDoc)).extend
      ((Gathering.new.add (.symbol definedDoc)).add (.refs { outsideDoc with id := "g" }))
    let outside : Gathering := (Gathering.new.add (.symbol definedDoc)).add (.refs outsideDoc)
    let both := calls.linker.link.merge outside.linker.link
    calls.linker.link.hasContainers = false ∧ calls.linker.link.hasCallKind = true ∧
      outside.linker.link.hasContainers = true ∧ both.hasContainers = true ∧
      both.hasCallKind = true := by
  intro calls outside both
  obtain ⟨-, hcalls, -⟩ := format_exact calls
  obtain ⟨hsome, -, -, -, -, hmerged⟩ := format_exact outside
  have hcall : ∃ r, Attached calls.documents r ∧ 16 ≤ r.kind.bits :=
    ⟨⟨⟨20⟩, ⟨"c", .lines 9 9⟩, none⟩, by decide, by decide⟩
  have houtside : outside.linker.link.hasContainers = true :=
    hsome.2 ⟨⟨⟨4⟩, ⟨"d", .lines 3 3⟩, some Reference.nullContainer⟩, by decide, rfl⟩
  have hboth : both.hasContainers = true := by
    show (calls.linker.link.hasContainers || outside.linker.link.hasContainers) = true
    rw [houtside, Bool.or_true]
  refine ⟨by decide, hcalls.2 (.inr hcall), houtside, hboth, ?_⟩
  exact hmerged both (.merge (.link calls) (.link outside)) hboth

end Index

end SymbolAtlas
