import Mathlib.Data.List.Nodup
import Mathlib.Data.Set.Card
import SymbolAtlas.Proofs.Index
import SymbolAtlas.Proofs.Parents

/-!
# Cutting every cycle of parents once

A walk along parents ends where it meets settled ground, its own path or an id without a parent.
With the settled ground it stays closed under parents, so a cycle is met by one walk only, whatever
tail enters it first (`Trail.Closes`, `Survey.Sound`). Hence the cuts are one id of each cycle
(`cycleCuts_cutsCycles`), as many as there are cycles (`CutsCycles.encard`), and `breakCycles`
leaves no cycle (`breakCycles_acyclic`).
-/

namespace SymbolAtlas

/-- The symbol without its parent. -/
def Symbol.unparented (s : Symbol) : Symbol := { s with parentId := none }

@[simp] theorem Symbol.unparented_unparented (s : Symbol) :
    s.unparented.unparented = s.unparented := rfl

namespace Index

/-- Parents of settled ids are settled. -/
def ClosedUp (ix : Index) (settled : KeySet String) : Prop :=
  ∀ x ∈ settled, ∀ p, ix.ParentLink x p → p ∈ settled

/-- A walk that has been through `path`, last first, and has come to `id`. -/
structure Walk (ix : Index) (settled : KeySet String) (path : List String) (id : String) :
    Prop where
  fresh : ∀ x ∈ path, x ∉ settled
  nodup : path.Nodup
  leads : ∀ x ∈ path, ix.Ascends x id
  last : ∀ k, path.head? = some k → ∀ x ∈ path, Relation.ReflTransGen ix.ParentLink x k
  follows : ∀ x ∈ path, ∀ p, ix.ParentLink x p → p ∈ path ∨ p = id

/-- A finished walk: its ground is new and closed together with the settled ground, and it has an
id to cut if and only if it met a cycle, an id of that cycle. -/
structure Trail.Closes (ix : Index) (settled : KeySet String) (t : Trail) : Prop where
  fresh : ∀ x ∈ t.visited, x ∉ settled
  closed : ∀ x ∈ t.visited, ∀ p, ix.ParentLink x p → p ∈ t.visited ∨ p ∈ settled
  cut : ∀ k, t.cut = some k → k ∈ t.visited ∧ ix.OnCycle k
  met : ∀ x ∈ t.visited, ix.OnCycle x → ∃ k, t.cut = some k ∧ ix.Ascends x k

variable {ix : Index} {settled : KeySet String} {path : List String} {id : String}

theorem ClosedUp.ascends (hc : ix.ClosedUp settled) {x y : String} (hx : x ∈ settled)
    (h : ix.Ascends x y) : y ∈ settled := by
  induction h with
  | single hl => exact hc _ hx _ hl
  | tail _ hl ih => exact hc _ ih _ hl

/-! ## One walk -/

theorem Walk.start (ix : Index) (settled : KeySet String) (id : String) :
    ix.Walk settled [] id := by
  constructor <;> simp

theorem Walk.push (hw : ix.Walk settled path id) {p : String} (hs : id ∉ settled) (hn : id ∉ path)
    (hl : ix.ParentLink id p) : ix.Walk settled (id :: path) p where
  fresh := by simpa [hs] using hw.fresh
  nodup := List.nodup_cons.2 ⟨hn, hw.nodup⟩
  leads x hx := by
    rcases List.mem_cons.1 hx with rfl | hx
    · exact .single hl
    · exact (hw.leads x hx).tail hl
  last k hk x hx := by
    obtain rfl : id = k := by simpa using hk
    rcases List.mem_cons.1 hx with rfl | hx
    · exact .refl
    · exact (hw.leads x hx).to_reflTransGen
  follows x hx q hq := by
    rcases List.mem_cons.1 hx with rfl | hx
    · exact .inr (hq.unique hl)
    · rcases hw.follows x hx q hq with h | rfl
      · exact .inl (List.mem_cons_of_mem _ h)
      · exact .inl (List.mem_cons_self ..)

/-- Every id of a path has a parent, so there are no more of them than symbols. -/
theorem Walk.length_le (hw : ix.Walk settled path id) : path.length ≤ ix.size := by
  have hsub : path ⊆ ix.ids := fun x hx => (hw.leads x hx).known
  simpa [ids, Table.keys, size, Table.size] using (hw.nodup.subperm hsub).length_le

/-- A walk that comes to settled ground met no cycle. -/
theorem Walk.closes_of_settled (hw : ix.Walk settled path id) (hc : ix.ClosedUp settled)
    (hs : id ∈ settled) : Trail.Closes ix settled ⟨path, none⟩ where
  fresh := hw.fresh
  closed x hx p hp := by
    rcases hw.follows x hx p hp with h | rfl
    · exact .inl h
    · exact .inr hs
  cut := by simp
  met x hx hcyc :=
    absurd (hc.ascends hs ((hw.leads x hx).back hcyc)) (hw.fresh x hx)

/-- A walk that comes back to its path closes a cycle at the last id it came from. -/
theorem Walk.closes_of_return (hw : ix.Walk settled path id) (hr : id ∈ path) :
    Trail.Closes ix settled ⟨path, path.head?⟩ where
  fresh := hw.fresh
  closed x hx p hp := by
    rcases hw.follows x hx p hp with h | rfl
    · exact .inl h
    · exact .inl hr
  cut k hk := by
    have hmem := List.mem_of_head? hk
    exact ⟨hmem, Relation.TransGen.trans_left (hw.leads k hmem) (hw.last k hk id hr)⟩
  met x hx hcyc := by
    obtain ⟨k, hk⟩ : ∃ k, path.head? = some k :=
      ⟨_, List.head?_eq_some_head (List.ne_nil_of_mem hx)⟩
    exact ⟨k, hk, Relation.TransGen.trans_left hcyc (hw.last k hk x hx)⟩

/-- A walk that comes to an id without a parent met no cycle. -/
theorem Walk.closes_of_end (hw : ix.Walk settled path id) (hs : id ∉ settled)
    (hn : ix.parent? id = none) : Trail.Closes ix settled ⟨id :: path, none⟩ where
  fresh := by simpa [hs] using hw.fresh
  closed x hx p hp := by
    rcases List.mem_cons.1 hx with rfl | hx
    · rw [ParentLink, hn] at hp
      cases hp
    · rcases hw.follows x hx p hp with h | rfl
      · exact .inl (List.mem_cons_of_mem _ h)
      · exact .inl (List.mem_cons_self ..)
  cut := by simp
  met x hx hcyc := by
    have hid : ix.OnCycle id := by
      rcases List.mem_cons.1 hx with rfl | hx
      · exact hcyc
      · exact (hw.leads x hx).onCycle hcyc
    obtain ⟨p, hp⟩ := hid.exists_link
    rw [ParentLink, hn] at hp
    cases hp

theorem follow_closes (hc : ix.ClosedUp settled) (fuel : Nat) (hw : ix.Walk settled path id)
    (hf : ix.size < path.length + fuel) :
    (ix.follow settled fuel path id).Closes ix settled ∧
      path ⊆ (ix.follow settled fuel path id).visited ∧
      (id ∈ (ix.follow settled fuel path id).visited ∨ id ∈ settled) := by
  induction fuel generalizing path id with
  | zero => have := hw.length_le; omega
  | succ fuel ih =>
    unfold follow
    split
    · next hs => exact ⟨hw.closes_of_settled hc hs, List.Subset.refl _, .inr hs⟩
    · next hs =>
      split
      · next hr =>
        have hr : id ∈ path := by simpa using hr
        exact ⟨hw.closes_of_return hr, List.Subset.refl _, .inl hr⟩
      · next hr =>
        have hr : id ∉ path := by simpa using hr
        split
        · next hn =>
          exact ⟨hw.closes_of_end hs hn, List.subset_cons_self .., .inl (List.mem_cons_self ..)⟩
        · next p hp =>
          obtain ⟨h, hsub, -⟩ := ih (hw.push hs hr hp) (by simp only [List.length_cons]; omega)
          exact ⟨h, List.Subset.trans (List.subset_cons_self ..) hsub,
            .inl (hsub (List.mem_cons_self ..))⟩

/-! ## All walks -/

/-- The settled ground is closed, and each cycle on it has one id among the cuts. -/
structure Survey.Sound (ix : Index) (s : Survey) : Prop where
  closed : ix.ClosedUp s.settled
  cut : ∀ k ∈ s.cuts, k ∈ s.settled ∧ ix.OnCycle k
  nodup : s.cuts.Nodup
  single : ∀ k ∈ s.cuts, ∀ l ∈ s.cuts, ix.Ascends k l → k = l
  met : ∀ x ∈ s.settled, ix.OnCycle x → ∃ k ∈ s.cuts, ix.Ascends x k

theorem Survey.Sound.empty (ix : Index) : Survey.Sound ix ⟨∅, []⟩ := by
  constructor <;> simp [ClosedUp]

theorem Survey.Sound.step {s : Survey} (h : s.Sound ix) (start : String) :
    (ix.surveyFrom s start).Sound ix ∧ start ∈ (ix.surveyFrom s start).settled ∧
      ∀ x ∈ s.settled, x ∈ (ix.surveyFrom s start).settled := by
  obtain ⟨ht, -, hstart⟩ := follow_closes h.closed (ix.size + 2) (Walk.start ix s.settled start)
    (by simp only [List.length_nil]; omega)
  simp only [surveyFrom]
  generalize ix.follow s.settled (ix.size + 2) [] start = t at ht hstart
  have hnew : ∀ k, t.cut = some k → k ∉ s.settled := fun k hk => ht.fresh k (ht.cut k hk).1
  refine ⟨⟨?closed, ?cut, ?nodup, ?single, ?met⟩, KeySet.mem_insertAll.2 hstart,
    fun x hx => KeySet.mem_insertAll.2 (.inr hx)⟩
  case closed =>
    intro x hx p hp
    rcases KeySet.mem_insertAll.1 hx with hx | hx
    · exact KeySet.mem_insertAll.2 (ht.closed x hx p hp)
    · exact KeySet.mem_insertAll.2 (.inr (h.closed x hx p hp))
  case cut =>
    intro k hk
    rw [List.mem_append, Option.mem_toList] at hk
    rcases hk with hk | hk
    · exact ⟨KeySet.mem_insertAll.2 (.inr (h.cut k hk).1), (h.cut k hk).2⟩
    · exact ⟨KeySet.mem_insertAll.2 (.inl (ht.cut k hk).1), (ht.cut k hk).2⟩
  case nodup =>
    refine List.nodup_append.2 ⟨h.nodup, by cases t.cut <;> simp, fun k hk l hl e => ?_⟩
    subst e
    exact hnew k (Option.mem_toList.1 hl) (h.cut k hk).1
  case single =>
    intro k hk l hl hkl
    rw [List.mem_append, Option.mem_toList] at hk hl
    rcases hk with hk | hk <;> rcases hl with hl | hl
    · exact h.single k hk l hl hkl
    · exact absurd (h.closed.ascends (h.cut k hk).1 hkl) (hnew l hl)
    · exact absurd (h.closed.ascends (h.cut l hl).1 (hkl.back (ht.cut k hk).2)) (hnew k hk)
    · exact Option.some.inj (hk.symm.trans hl)
  case met =>
    intro x hx hcyc
    rcases KeySet.mem_insertAll.1 hx with hx | hx
    · obtain ⟨k, hk, hxk⟩ := ht.met x hx hcyc
      exact ⟨k, List.mem_append_right _ (Option.mem_toList.2 hk), hxk⟩
    · obtain ⟨k, hk, hxk⟩ := h.met x hx hcyc
      exact ⟨k, List.mem_append_left _ hk, hxk⟩

theorem Survey.Sound.run (l : List String) : ∀ {s : Survey}, s.Sound ix →
    (l.foldl ix.surveyFrom s).Sound ix ∧
      (∀ x ∈ s.settled, x ∈ (l.foldl ix.surveyFrom s).settled) ∧
      ∀ x ∈ l, x ∈ (l.foldl ix.surveyFrom s).settled := by
  induction l with
  | nil => exact fun h => ⟨h, fun _ hx => hx, by simp⟩
  | cons a l ih =>
    intro s h
    obtain ⟨h1, hstart, hkeep⟩ := h.step a
    obtain ⟨h2, hkeep', hl⟩ := ih h1
    refine ⟨h2, fun x hx => hkeep' x (hkeep x hx), fun x hx => ?_⟩
    rcases List.mem_cons.1 hx with rfl | hx
    · exact hkeep' _ hstart
    · exact hl x hx

/-! ## The cuts -/

/-- `cuts` holds one id of each cycle and no other id. -/
structure CutsCycles (ix : Index) (cuts : List String) : Prop where
  nodup : cuts.Nodup
  onCycle : ∀ k ∈ cuts, ix.OnCycle k
  single : ∀ k ∈ cuts, ∀ l ∈ cuts, ix.Ascends k l → k = l
  met : ∀ x, ix.OnCycle x → ∃ k ∈ cuts, ix.Ascends x k

theorem cycleCuts_cutsCycles (ix : Index) : ix.CutsCycles ix.cycleCuts := by
  obtain ⟨h, -, hall⟩ := Survey.Sound.run ix.ids (Survey.Sound.empty ix)
  exact ⟨h.nodup, fun k hk => (h.cut k hk).2, h.single,
    fun x hx => h.met x (hall x (Ascends.known hx)) hx⟩

/-- There are as many cuts as cycles. -/
theorem CutsCycles.encard {cuts : List String} (h : ix.CutsCycles cuts) :
    {c | ix.IsCycle c}.encard = cuts.length := by
  have himage : {c | ix.IsCycle c} = (fun k => {b | ix.Ascends k b}) '' {k | k ∈ cuts} := by
    ext c
    refine ⟨?_, ?_⟩
    · rintro ⟨a, ha, rfl⟩
      obtain ⟨k, hk, hak⟩ := h.met a ha
      exact ⟨k, hk, (hak.cycle_eq ha).symm⟩
    · rintro ⟨k, hk, rfl⟩
      exact (h.onCycle k hk).isCycle
  have hinj : Set.InjOn (fun k => {b | ix.Ascends k b}) {k | k ∈ cuts} := by
    intro k hk l hl e
    have hself : l ∈ {b | ix.Ascends k b} := by
      rw [show {b | ix.Ascends k b} = {b | ix.Ascends l b} from e]
      exact h.onCycle l hl
    exact h.single k hk l hl hself
  rw [himage, hinj.encard_image, ← List.coe_toFinset, Set.encard_coe_eq_coe_finsetCard,
    List.toFinset_card_of_nodup h.nodup]

/-- Each cycle has exactly one id that is cut. -/
theorem CutsCycles.existsUnique {cuts : List String} (h : ix.CutsCycles cuts) {c : Set String}
    (hc : ix.IsCycle c) : ∃! k, k ∈ c ∧ k ∈ cuts := by
  obtain ⟨a, ha, rfl⟩ := hc
  obtain ⟨k, hk, hak⟩ := h.met a ha
  refine ⟨k, ⟨hak, hk⟩, ?_⟩
  rintro l ⟨hal, hl⟩
  exact h.single l hl k hk ((hal.back ha).trans hak)

/-! ## The index without its cycles -/

theorem get?_orphan (ix : Index) (a id : String) : (ix.orphan a).get? id =
    if id = a then (ix.get? id).map Symbol.unparented else ix.get? id :=
  get?_modify ..

theorem get?_foldl_orphan (id : String) (l : List String) : ∀ ix : Index,
    (l.foldl orphan ix).get? id =
      if id ∈ l then (ix.get? id).map Symbol.unparented else ix.get? id := by
  induction l with
  | nil => simp
  | cons a l ih =>
    intro ix
    rw [List.foldl_cons, ih, get?_orphan]
    by_cases h : id = a <;> by_cases hl : id ∈ l <;> simp [h, hl, Function.comp_def]

theorem parent?_orphan (ix : Index) (a id : String) :
    (ix.orphan a).parent? id = if id = a then none else ix.parent? id := by
  simp only [parent?, orphan, modify, get?, Table.get?_modify]
  split
  · cases ix.symbols.get? id <;> rfl
  · rfl

theorem parent?_foldl_orphan (id : String) (l : List String) : ∀ ix : Index,
    (l.foldl orphan ix).parent? id = if id ∈ l then none else ix.parent? id := by
  induction l with
  | nil => simp
  | cons a l ih =>
    intro ix
    rw [List.foldl_cons, ih, parent?_orphan]
    by_cases h : id = a <;> by_cases hl : id ∈ l <;> simp [h, hl]

theorem ids_foldl_orphan (l : List String) : ∀ ix : Index, (l.foldl orphan ix).ids = ix.ids := by
  induction l with
  | nil => exact fun _ => rfl
  | cons a l ih => exact fun ix => (ih _).trans (Table.keys_mapWithKey ..)

/-- Cutting links changes symbols alone. -/
theorem foldl_orphan_rest (l : List String) : ∀ ix : Index,
    ({ l.foldl orphan ix with symbols := ∅ } : Index) = { ix with symbols := ∅ } := by
  induction l with
  | nil => exact fun _ => rfl
  | cons a l ih => exact fun ix => ih (ix.orphan a)

theorem isCallable_foldl_orphan (l : List String) (ix : Index) (id : String) :
    (l.foldl orphan ix).isCallable id = ix.isCallable id := by
  have h := congrArg (·.isCallable id) (foldl_orphan_rest l ix)
  exact h

theorem any_isCallable_foldl_orphan (l : List String) (ix : Index) (id : String) :
    ((l.foldl orphan ix).get? id).any Symbol.isCallable = (ix.get? id).any Symbol.isCallable := by
  rw [get?_foldl_orphan]
  split
  · rw [Option.any_map]
    rfl
  · rfl

theorem parent?_breakCycles (ix : Index) (id : String) :
    ix.breakCycles.parent? id = if id ∈ ix.cycleCuts then none else ix.parent? id :=
  parent?_foldl_orphan id ix.cycleCuts ix

theorem breakCycles_keepsLinksOf (ix : Index) : ix.breakCycles.KeepsLinksOf ix := by
  intro a b h
  rw [ParentLink, parent?_breakCycles] at h
  split at h
  · cases h
  · exact h

theorem breakCycles_acyclic (ix : Index) (a : String) : ¬ix.breakCycles.OnCycle a := by
  refine (breakCycles_keepsLinksOf ix).acyclic (fun x hx => ?_) a
  obtain ⟨k, hk, hxk⟩ := (cycleCuts_cutsCycles ix).met x hx
  exact ⟨k, hxk, by rw [parent?_breakCycles, if_pos hk]⟩

end Index

end SymbolAtlas
