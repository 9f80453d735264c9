import SymbolAtlas.Proofs.Calls
import SymbolAtlas.Proofs.Forest.Innermost
import SymbolAtlas.Proofs.Index

/-!
# The innermost function around a call

Of the functions around a place the search takes the one that is ahead of the others
(`functionAround_eq_some_iff`): its body starts on the earliest line, and its id comes first among
those that start there. A body around another starts no later, so where bodies nest the innermost
function is found only if every function around it starts on the same line and has a later id
(`comesFirst_iff`). Otherwise a function around it gets the call (`callGraphFrom_laterLine`).
-/

namespace SymbolAtlas

open Std

/-! ## Bodies of functions -/

namespace FunctionBody

variable {a b : FunctionBody}

/-- The body `a` starts on an earlier line than `b`, or on the same one where the id of its owner
comes first. -/
def AheadOf (a b : FunctionBody) : Prop := a.body.start.line < b.body.start.line ∨
  a.body.start.line = b.body.start.line ∧ compare a.owner b.owner = .lt

instance : Decidable (a.AheadOf b) := inferInstanceAs (Decidable (_ ∨ _))

theorem AheadOf.asymm (h : a.AheadOf b) : ¬b.AheadOf a := by
  intro h'
  rcases h with hlt | ⟨heq, hid⟩ <;> rcases h' with hlt' | ⟨heq', hid'⟩
  · exact UInt32.lt_asymm hlt hlt'
  · exact UInt32.lt_irrefl _ (heq' ▸ hlt)
  · exact UInt32.lt_irrefl _ (heq ▸ hlt')
  · rw [OrientedCmp.gt_of_lt hid] at hid'
    cases hid'

end FunctionBody

namespace Symbol

variable {f g : Symbol}

/-- The body of `f` encloses that of `g` and is another range. -/
def Around (f g : Symbol) : Prop := ∃ a ∈ f.body, ∃ b ∈ g.body, a.Surrounds b

/-- One of the bodies of `f` and `g` ends before the other one starts, or where it starts. -/
def ApartFrom (f g : Symbol) : Prop := ∃ a ∈ f.body, ∃ b ∈ g.body, a.Apart b

/-- The bodies of `f` and `g` start on one line. -/
def StartsBeside (f g : Symbol) : Prop := ∃ a ∈ f.body, ∃ b ∈ g.body, a.start.line = b.start.line

/-- The body of `f` is ahead of that of `g`. -/
def AheadOf (f g : Symbol) : Prop :=
  ∃ a ∈ f.body, ∃ b ∈ g.body, FunctionBody.AheadOf ⟨f.id, a⟩ ⟨g.id, b⟩

def breadth (f : Symbol) : Nat := (f.body.map Range.breadth).getD 0

instance : Decidable (f.Around g) := inferInstanceAs (Decidable (∃ a ∈ _, _))

instance : Decidable (f.ApartFrom g) := inferInstanceAs (Decidable (∃ a ∈ _, _))

instance : Decidable (f.StartsBeside g) := inferInstanceAs (Decidable (∃ a ∈ _, _))

instance : Decidable (f.AheadOf g) := inferInstanceAs (Decidable (∃ a ∈ _, _))

theorem Around.breadth_lt (h : f.Around g) : g.breadth < f.breadth := by
  obtain ⟨a, ha, b, hb, hab⟩ := h
  have hf : f.breadth = a.breadth := by rw [breadth, ha, Option.map_some, Option.getD_some]
  have hg : g.breadth = b.breadth := by rw [breadth, hb, Option.map_some, Option.getD_some]
  rw [hf, hg]
  exact hab.breadth_lt

theorem AheadOf.asymm (h : f.AheadOf g) : ¬g.AheadOf f := by
  obtain ⟨a, ha, b, hb, h⟩ := h
  rintro ⟨b', hb', a', ha', h'⟩
  obtain rfl := Option.some.inj (ha.symm.trans ha')
  obtain rfl := Option.some.inj (hb.symm.trans hb')
  exact h.asymm h'

/-- A function around another one is behind it only on its line. -/
theorem Around.aheadOf_iff (h : f.Around g) :
    g.AheadOf f ↔ f.StartsBeside g ∧ compare g.id f.id = .lt := by
  obtain ⟨a, ha, b, hb, hab⟩ := h
  have hle := Range.startLine_le_of_encloses hab.1
  refine ⟨?_, ?_⟩
  · rintro ⟨b', hb', a', ha', hlt | ⟨heq, hid⟩⟩
    · obtain rfl := Option.some.inj (ha.symm.trans ha')
      obtain rfl := Option.some.inj (hb.symm.trans hb')
      exact absurd hlt (UInt32.not_lt.2 hle)
    · exact ⟨⟨a', ha', b', hb', heq.symm⟩, hid⟩
  · rintro ⟨⟨a', ha', b', hb', heq⟩, hid⟩
    exact ⟨b', hb', a', ha', .inr ⟨heq.symm, hid⟩⟩

end Symbol

namespace Index

variable {ix : Index} {l : Location} {c d f g : Symbol} {r : Reference} {file owner : String}

/-- The functions that have a body and are defined in one file have distinct bodies, which nest or
are apart. -/
def BodiesNest (ix : Index) : Prop :=
  ∀ f ∈ ix.callableSymbols, ∀ g ∈ ix.callableSymbols, f ≠ g →
    ∀ d ∈ f.definition, ∀ e ∈ g.definition, d.file = e.file → ∀ a ∈ f.body, ∀ b ∈ g.body,
      a ≠ b ∧ (a.encloses b = true ∨ b.encloses a = true ∨ a.Apart b)

/-- The body of `c` is around `l`, and it is around no other such body. -/
def Innermost (ix : Index) (l : Location) (c : Symbol) : Prop :=
  ix.BodyAround l c ∧ ∀ f, ix.BodyAround l f → ¬c.Around f

/-- The body of `c` is around `l`, and `c` is ahead of all others whose body is. -/
def ComesFirst (ix : Index) (l : Location) (c : Symbol) : Prop :=
  ix.BodyAround l c ∧ ∀ f, ix.BodyAround l f → f ≠ c → c.AheadOf f

/-- What holds of the functions around a place can be looked up in the list of callables. -/
theorem forall_bodyAround {P : Symbol → Prop} : (∀ f, ix.BodyAround l f → P f) ↔
    ∀ f ∈ ix.callableSymbols, ix.BodyAround l f → P f :=
  ⟨fun h f _ => h f, fun h f hf => h f hf.1 hf⟩

instance : Decidable ix.BodiesNest := inferInstanceAs (Decidable (∀ f ∈ _, _))

instance : Decidable (ix.BodyAround l f) := inferInstanceAs (Decidable (_ ∧
  (∃ d ∈ f.definition, d.file = l.file) ∧ ∃ b ∈ f.body, l.range.within b true = true))

instance : Decidable (ix.Innermost l c) :=
  decidable_of_iff _ (and_congr_right fun _ => forall_bodyAround).symm

theorem ComesFirst.unique (h : ix.ComesFirst l f) (h' : ix.ComesFirst l g) : f = g := by
  by_contra hne
  exact (h.2 g h'.1 (Ne.symm hne)).asymm (h'.2 f h.1 hne)

/-! ## The function that is found -/

section Found
variable (hk : ix.Keyed)
include hk

theorem eq_of_mem_callableSymbols (hf : f ∈ ix.callableSymbols) (hg : g ∈ ix.callableSymbols)
    (hid : f.id = g.id) : f = g := by
  have hget := hk.get?_of_mem_callableSymbols hf
  rw [hid, hk.get?_of_mem_callableSymbols hg] at hget
  exact (Option.some.inj hget).symm

theorem pairwise_functionBodies :
    ix.functionBodies.Pairwise fun a b => compare a.2.owner b.2.owner = .lt := by
  unfold functionBodies
  rw [List.pairwise_filterMap]
  refine hk.pairwise_callableSymbols.imp fun {f g} hlt a ha b hb => ?_
  obtain ⟨_, _, ha⟩ := Option.bind_eq_some_iff.1 ha
  obtain ⟨_, _, ha⟩ := Option.bind_eq_some_iff.1 ha
  obtain ⟨_, _, hb⟩ := Option.bind_eq_some_iff.1 hb
  obtain ⟨_, _, hb⟩ := Option.bind_eq_some_iff.1 hb
  cases ha
  cases hb
  exact hlt

/-- The function bodies of a file are listed by start line and then by id. -/
theorem pairwise_bodiesByFile (file : String) :
    (ix.bodiesByFile.getD file []).Pairwise FunctionBody.AheadOf := by
  have hids : ((ix.functionBodies.filter (·.1 = file)).map (·.2)).Pairwise
      fun a b => compare a.owner b.owner = .lt :=
    List.pairwise_map.2 ((pairwise_functionBodies hk).filter _)
  rw [getD_bodiesByFile]
  refine (pairwise_mergeSort_of_pairwise earlierLine_trans earlierLine_total hids).imp ?_
  intro a b ⟨hle, hid⟩
  rw [earlierLine, decide_eq_true_eq] at hle hid
  rcases UInt32.lt_or_eq_of_le hle with hlt | heq
  · exact .inl hlt
  · exact .inr ⟨heq, hid (heq ▸ UInt32.le_refl _)⟩

theorem comesFirst_of_functionAround (h : functionAround ix.bodiesByFile l = some owner) :
    ∃ f, ix.ComesFirst l f ∧ f.id = owner := by
  obtain ⟨b, hfound, rfl⟩ := Option.map_eq_some_iff.1 h
  have hmem := mem_bodiesByFile.1 (List.mem_of_find?_eq_some hfound)
  obtain ⟨f, hf, hd, hbody, hid⟩ := mem_functionBodies.1 hmem
  have hin := List.find?_some hfound
  refine ⟨f, ⟨⟨hf, hd, b.body, hbody, hin⟩, ?_⟩, hid⟩
  rintro g ⟨hg, hgd, a, ha, hina⟩ hne
  have hga : (⟨g.id, a⟩ : FunctionBody) ∈ ix.bodiesByFile.getD l.file [] :=
    mem_bodiesByFile.2 (mem_functionBodies.2 ⟨g, hg, hgd, ha, rfl⟩)
  have hfirst := le_of_find? (R := fun a b => a = b ∨ a.AheadOf b) (fun _ => .inl rfl)
    ((pairwise_bodiesByFile hk l.file).imp .inr) hfound hga hina
  rcases hfirst with rfl | hahead
  · exact absurd (eq_of_mem_callableSymbols hk hg hf hid.symm) hne
  · exact ⟨b.body, hbody, a, ha, hid ▸ hahead⟩

theorem exists_comesFirst (h : ∃ f, ix.BodyAround l f) : ∃ f, ix.ComesFirst l f := by
  cases hfound : functionAround ix.bodiesByFile l with
  | none =>
    obtain ⟨f, hf⟩ := h
    exact absurd hf (functionAround_eq_none_iff.1 hfound f)
  | some owner =>
    obtain ⟨f, hf, -⟩ := comesFirst_of_functionAround hk hfound
    exact ⟨f, hf⟩

/-- The search takes the function that comes first. -/
theorem functionAround_eq_some_iff (hc : c ∈ ix.callableSymbols) :
    functionAround ix.bodiesByFile l = some c.id ↔ ix.ComesFirst l c := by
  refine ⟨fun h => ?_, fun h => ?_⟩
  · obtain ⟨f, hf, hid⟩ := comesFirst_of_functionAround hk h
    exact eq_of_mem_callableSymbols hk hf.1.1 hc hid ▸ hf
  · cases hfound : functionAround ix.bodiesByFile l with
    | none => exact absurd h.1 (functionAround_eq_none_iff.1 hfound c)
    | some owner =>
      obtain ⟨f, hf, rfl⟩ := comesFirst_of_functionAround hk hfound
      rw [hf.unique h]

/-- A call is found by place for every reference that the caller comes first around. -/
theorem mem_callGraphFrom_place (hc : c ∈ ix.callableSymbols) (hd : d ∈ ix.callableSymbols)
    (reverse : Bool) : ⟨c.id, d.id⟩ ∈ (ix.callGraphFrom .place reverse).calls ↔
      ∃ r ∈ d.references, ix.callMark.isCall r.kind = true ∧ ix.ComesFirst r.location c := by
  rw [callGraphFrom, CallGraph.mem_calls_ofCalls, callsFrom, mem_callsWhere]
  simp only [functionAround_eq_some_iff hk hc]
  refine ⟨?_, fun h => ⟨d, hd, rfl, h⟩⟩
  rintro ⟨f, hf, hid, h⟩
  exact eq_of_mem_callableSymbols hk hf hd hid ▸ h

end Found

/-! ## The innermost function -/

/-- Around a place that is in a function there is an innermost one. -/
theorem exists_innermost (h : ∃ f, ix.BodyAround l f) : ∃ c, ix.Innermost l c := by
  obtain ⟨c, hc, hleast⟩ := (measure Symbol.breadth).wf.has_min {f | ix.BodyAround l f} h
  exact ⟨c, hc, fun f hf hcf => hleast f hf hcf.breadth_lt⟩

/-- Where bodies nest, the innermost function comes first if every function around it starts on its
line and has a later id, and it is ahead of those apart from it. -/
theorem comesFirst_iff (hnest : ix.BodiesNest) (hc : ix.Innermost l c) :
    ix.ComesFirst l c ↔
      (∀ f, ix.BodyAround l f → f.Around c → f.StartsBeside c ∧ compare c.id f.id = .lt) ∧
      ∀ f, ix.BodyAround l f → f ≠ c → f.ApartFrom c → c.AheadOf f := by
  refine ⟨fun h => ⟨fun f hf hfc => ?_, fun f hf hne _ => h.2 f hf hne⟩,
    fun h => ⟨hc.1, fun f hf hne => ?_⟩⟩
  · have hne : f ≠ c := by
      rintro rfl
      exact hc.2 f hf hfc
    exact hfc.aheadOf_iff.1 (h.2 f hf hne)
  · have hwithin := hc.2 f hf
    have houter := h.1 f hf
    have hbeside := h.2 f hf hne
    obtain ⟨hmem, ⟨d, hd, hfile⟩, a, ha, -⟩ := hf
    obtain ⟨hcmem, ⟨e, he, hfile'⟩, b, hb, -⟩ := hc.1
    obtain ⟨hab, hout | hin | hapart⟩ :=
      hnest f hmem c hcmem hne d hd e he (hfile.trans hfile'.symm) a ha b hb
    · have hfc : f.Around c := ⟨a, ha, b, hb, hout, hab⟩
      exact hfc.aheadOf_iff.2 (houter hfc)
    · exact absurd ⟨b, hb, a, ha, hin, hab.symm⟩ hwithin
    · exact hbeside ⟨a, ha, b, hb, hapart⟩

/-- A call in functions whose bodies nest is found from the function that comes first around it. It
is found from the innermost function if that comes first around one of the calls to its callee. -/
theorem callGraphFrom_innermost (hk : ix.Keyed) (hnest : ix.BodiesNest)
    (hd : d ∈ ix.callableSymbols) (hr : r ∈ d.references) (hcall : ix.callMark.isCall r.kind = true)
    (haround : ∃ f, ix.BodyAround r.location f) (reverse : Bool) :
    (∃ f, ix.ComesFirst r.location f ∧
        ⟨f.id, d.id⟩ ∈ (ix.callGraphFrom .place reverse).calls) ∧
      (∃ c, ix.Innermost r.location c) ∧
      ∀ c, ix.Innermost r.location c →
        (⟨c.id, d.id⟩ ∈ (ix.callGraphFrom .place reverse).calls ↔
          ∃ q ∈ d.references, ix.callMark.isCall q.kind = true ∧ ix.ComesFirst q.location c) ∧
        (ix.ComesFirst r.location c ↔
          (∀ f, ix.BodyAround r.location f → f.Around c →
            f.StartsBeside c ∧ compare c.id f.id = .lt) ∧
          ∀ f, ix.BodyAround r.location f → f ≠ c → f.ApartFrom c → c.AheadOf f) := by
  refine ⟨?_, exists_innermost haround, fun c hc =>
    ⟨mem_callGraphFrom_place hk hc.1.1 hd reverse, comesFirst_iff hnest hc⟩⟩
  obtain ⟨f, hf⟩ := exists_comesFirst hk haround
  exact ⟨f, hf, (mem_callGraphFrom_place hk hf.1.1 hd reverse).2 ⟨r, hr, hcall, hf⟩⟩

/-- A call of `g` on line 4. -/
def callOnLine4 : Reference := ⟨⟨4⟩, ⟨"a", ⟨⟨4, 6⟩, ⟨4, 7⟩⟩⟩, none⟩

/-- A function whose body starts on line 3. -/
def outerFunction : Symbol :=
  { id := "f", name := "f", kind := .function, definition := some ⟨"a", .lines 2 2⟩
    body := some (.lines 3 9) }

/-- A method of a class within that function. -/
def localMethod (line : UInt32) : Symbol :=
  { id := "b", name := "m", kind := .instanceMethod, definition := some ⟨"a", .lines line line⟩
    body := some ⟨⟨line, 2⟩, ⟨5, 0⟩⟩ }

/-- A function that is called within the method. -/
def calledFunction : Symbol :=
  { id := "g", name := "g", kind := .function, references := [callOnLine4] }

def nestedIndex (line : UInt32) : Index :=
  .ofSymbols [outerFunction, localMethod line, calledFunction]

/-- The method is found where it starts on the line of the function and its id comes first. -/
theorem callGraphFrom_sameLine :
    (nestedIndex 3).WellFormed ∧ (nestedIndex 3).BodiesNest ∧
      (nestedIndex 3).Innermost callOnLine4.location (localMethod 3) ∧
      ⟨"b", "g"⟩ ∈ ((nestedIndex 3).callGraphFrom .place true).calls := by
  have hw : (nestedIndex 3).WellFormed := .ofSymbols _
  have hnest : (nestedIndex 3).BodiesNest := by decide
  have hc : (nestedIndex 3).Innermost callOnLine4.location (localMethod 3) := by decide
  have hd : calledFunction ∈ (nestedIndex 3).callableSymbols := by decide
  have hcall : (nestedIndex 3).callMark.isCall callOnLine4.kind = true := by decide
  have hr : callOnLine4 ∈ calledFunction.references := List.mem_singleton_self _
  obtain ⟨-, -, hinner⟩ := callGraphFrom_innermost hw.toKeyed hnest hd hr hcall ⟨_, hc.1⟩ true
  obtain ⟨hedge, hfirst⟩ := hinner _ hc
  have hline : ∀ f, (nestedIndex 3).BodyAround callOnLine4.location f → f.Around (localMethod 3) →
      f.StartsBeside (localMethod 3) ∧ compare (localMethod 3).id f.id = .lt :=
    forall_bodyAround.2 (by decide)
  have hapart : ∀ f, (nestedIndex 3).BodyAround callOnLine4.location f → f ≠ localMethod 3 →
      f.ApartFrom (localMethod 3) → (localMethod 3).AheadOf f :=
    forall_bodyAround.2 (by decide)
  exact ⟨hw, hnest, hc, hedge.2 ⟨callOnLine4, hr, hcall, hfirst.2 ⟨hline, hapart⟩⟩⟩

/-- A method that starts on a later line is not found. The function around it gets the call. -/
theorem callGraphFrom_laterLine :
    (nestedIndex 4).WellFormed ∧ (nestedIndex 4).BodiesNest ∧
      calledFunction ∈ (nestedIndex 4).callableSymbols ∧
      callOnLine4 ∈ calledFunction.references ∧
      (nestedIndex 4).callMark.isCall callOnLine4.kind = true ∧
      (nestedIndex 4).Innermost callOnLine4.location (localMethod 4) ∧
      ((nestedIndex 4).callGraphFrom .place true).calls = [⟨"f", "g"⟩] ∧
      ⟨"b", "g"⟩ ∉ ((nestedIndex 4).callGraphFrom .place true).calls := by
  have hcalls : ((nestedIndex 4).callGraphFrom .place true).calls = [⟨"f", "g"⟩] := by cbv
  refine ⟨.ofSymbols _, by decide, by decide, by decide, by decide, by decide, hcalls, ?_⟩
  rw [hcalls]
  decide

end Index

end SymbolAtlas
