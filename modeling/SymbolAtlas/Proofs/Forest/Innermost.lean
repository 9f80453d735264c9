import Mathlib
import SymbolAtlas.Proofs.Forest.Sweep

/-!
# When the sweep finds the innermost span

Where bodies start before they end and any two are equal, nested or apart (`SpanSet.Laminar`), a
span should hang from the innermost of the spans around it. The sweep closes a span of one line when
a span that is no bare name comes, although bare names that follow may still lie within it. This is
all that goes wrong: a span hangs from an innermost one if and only if nothing cuts it off in this
way (`hangsInnermost_iff`).
-/

namespace SymbolAtlas

/-- One range ends before the other starts. -/
def Range.Apart (a b : Range) : Prop := compare a.stop b.start ≠ .gt ∨ compare b.stop a.start ≠ .gt

instance (a b : Range) : Decidable (a.Apart b) := inferInstanceAs (Decidable (_ ∨ _))

instance (a b : Range) : Decidable (a.Surrounds b) := inferInstanceAs (Decidable (_ ∧ _))

theorem Range.apart_iff {a b : Range} :
    a.Apart b ↔ a.stop.toNat ≤ b.start.toNat ∨ b.stop.toNat ≤ a.start.toNat := by
  unfold Apart
  rw [← Position.isLE_compare_iff, ← Position.isLE_compare_iff, Ordering.isLE_iff_ne_gt,
    Ordering.isLE_iff_ne_gt]

theorem Span.stop_of_not_bare {d : Span} (h : d.isBare = false) : d.body.start ≠ d.body.stop := by
  intro heq
  simp [isBare, Range.zeroWidth, heq] at h

namespace SpanSet

/-- Bodies do not end before they start, and any two are equal, nested or apart. -/
@[mk_iff] structure Laminar (set : SpanSet) : Prop where
  ordered : ∀ a ∈ set.toList, a.body.Ordered
  nested : ∀ a ∈ set.toList, ∀ b ∈ set.toList, a.body = b.body ∨ a.body.Surrounds b.body ∨
    b.body.Surrounds a.body ∨ a.body.Apart b.body

instance (set : SpanSet) : Decidable set.Laminar := decidable_of_iff' _ (laminar_iff set)

/-- The span hangs from an innermost one of the spans around it, or there is none around it. -/
def HangsInnermost (set : SpanSet) (s : Span) : Prop :=
  match s.parentId with
  | some id => ∃ p ∈ set.toList, p.id = id ∧ s.within p = true ∧
      ∀ q ∈ set.toList, s.within q = true → ¬p.body.Surrounds q.body
  | none => ∀ q ∈ set.toList, s.within q = false

/-- Between `s` and the one line `t` around it comes `d`, which is no bare name, and nothing around
`s` comes after `d`. -/
@[mk_iff] structure CutsOff (set : SpanSet) (d t s : Span) : Prop where
  within : s.within t = true
  oneLine : t.body.singleLine = true
  notBare : d.isBare = false
  after : t.Before d
  before : d.Before s
  last : ∀ q ∈ set.toList, s.within q = true → q.Before d

instance (set : SpanSet) (d t s : Span) : Decidable (set.CutsOff d t s) :=
  decidable_of_iff' _ (cutsOff_iff set d t s)

variable {set : SpanSet} {d p s t : Span}

theorem bare_of_within (h : s.within t = true) (hline : t.body.singleLine = true) :
    s.isBare = true :=
  (Range.within_iff.1 h).2 hline

/-- Of the spans with a property the last in source order. -/
theorem exists_last {P : Span → Bool} (h : ∃ q ∈ set.toList, P q = true) :
    ∃ t ∈ set.toList, P t = true ∧ ∀ q ∈ set.toList, P q = true → q = t ∨ q.Before t := by
  have hmem : ∀ q, q ∈ (set.toList.mergeSort FileForest.sourceOrder).filter P ↔
      q ∈ set.toList ∧ P q = true := fun q => by
    rw [List.mem_filter, FileForest.mem_sorted]
  have hsorted := (FileForest.pairwise_before set).filter P
  obtain ⟨q, hq⟩ := h
  cases hlast : ((set.toList.mergeSort FileForest.sourceOrder).filter P).getLast? with
  | none =>
    have hm := (hmem q).2 hq
    rw [List.getLast?_eq_none_iff.1 hlast] at hm
    cases hm
  | some t =>
    obtain ⟨init, hinit⟩ := List.getLast?_eq_some_iff.1 hlast
    have ht := (hmem t).1 (List.mem_of_getLast? hlast)
    refine ⟨t, ht.1, ht.2, fun q hq hin => ?_⟩
    have hm := (hmem q).2 ⟨hq, hin⟩
    rw [hinit] at hm hsorted
    rcases List.mem_append.1 hm with hm | hm
    · exact .inr ((List.pairwise_append.1 hsorted).2.2 q hm t (List.mem_singleton_self t))
    · exact .inl (List.mem_singleton.1 hm)

namespace Laminar

variable (h : set.Laminar)
include h

/-- What comes between a span and one around it lies inside that one, or is around the span too,
which is then the point where the two meet. -/
theorem encloses_or_within (hs : s.body.Ordered) (ht : t ∈ set.toList) (hd : d ∈ set.toList)
    (hin : s.within t = true) (hlt : t.Before d) (hlt' : d.Before s) :
    t.body.encloses d.body = true ∨ s.within d = true := by
  have hot := Range.ordered_iff.1 (h.ordered t ht)
  have hod := Range.ordered_iff.1 (h.ordered d hd)
  rcases h.nested t ht d hd with heq | htd | hdt | hapart
  · left
    rw [heq, Range.encloses_iff_toNat]
    omega
  · exact .inl htd.1
  · exact absurd hlt (Span.before_of_surrounds hdt).asymm
  · have hst := Range.encloses_iff_toNat.1 (Range.encloses_of_within hin)
    have hstart := Span.start_le_of_before hlt
    have hstart' := Span.start_le_of_before hlt'
    rw [Range.ordered_iff] at hs
    rw [Range.apart_iff] at hapart
    by_cases hwide : d.body.start.toNat = d.body.stop.toNat
    · left
      rw [Range.encloses_iff_toNat]
      omega
    · rcases hapart with hapart | hapart
      · right
        have hpoint : s.body.start = s.body.stop := by
          rw [← Position.toNat_inj]
          omega
        have hbare : s.isBare = true := by simp [Span.isBare, Range.zeroWidth, hpoint]
        refine Range.within_iff.2 ⟨⟨?_, ?_⟩, fun _ => hbare⟩
        · rw [Range.encloses_iff_toNat]
          omega
        · rw [ne_eq, Range.eq_iff_toNat]
          omega
      · omega

/-- The last span around another one is open when it comes, or something cuts it off. -/
theorem isOpen_or_cutsOff (hs : s.body.Ordered) (ht : t ∈ set.toList) (hin : s.within t = true)
    (hlast : ∀ q ∈ set.toList, s.within q = true → q = t ∨ q.Before t) :
    set.IsOpen t s ∨ ∃ d ∈ set.toList, set.CutsOff d t s := by
  by_contra hcon
  rw [not_or, not_exists] at hcon
  refine hcon.1 ⟨hin, fun d hd hlt hlt' => ?_⟩
  have hnot : ¬s.within d = true := by
    intro hsd
    rcases hlast d hd hsd with rfl | hback
    · exact Span.not_before_self d hlt
    · exact hlt.asymm hback
  have hne : t.body ≠ d.body := by
    intro heq
    refine hnot ?_
    rwa [Span.within, ← heq]
  have henc := (h.encloses_or_within hs ht hd hin hlt hlt').resolve_right hnot
  refine Range.within_iff.2 ⟨⟨henc, hne⟩, fun hline => ?_⟩
  by_contra hbare
  refine hcon.2 d ⟨hd, hin, hline, Bool.eq_false_iff.2 hbare, hlt, hlt', fun q hq hsq => ?_⟩
  rcases hlast q hq hsq with rfl | hq
  · exact hlt
  · exact hq.trans hlt

/-- Where something cuts a span off from one line, an open span is around that line. -/
theorem surrounds_of_cutsOff (hs : s.body.Ordered) (ht : t ∈ set.toList) (hd : d ∈ set.toList)
    (hp : p ∈ set.toList) (hcut : set.CutsOff d t s) (hopen : set.IsOpen p s) :
    p.body.Surrounds t.body := by
  have hpd := hcut.last p hp hopen.within
  have hnot : ¬s.within d = true := fun hsd => Span.not_before_self d (hcut.last d hd hsd)
  have hdp := hopen.between d hd hpd hcut.before
  have hline : ¬p.body.singleLine = true := by
    intro hline
    have hbare := bare_of_within hdp hline
    rw [hcut.notBare] at hbare
    cases hbare
  have henc :=
    (h.encloses_or_within hs ht hd hcut.within hcut.after hcut.before).resolve_right hnot
  rcases h.nested p hp t ht with heq | hpt | htp | hapart
  · exact absurd (heq ▸ hcut.oneLine) hline
  · exact hpt
  · exact absurd (Range.singleLine_of_encloses hcut.oneLine htp.1 (h.ordered p hp)) hline
  · have hwide := Span.stop_of_not_bare hcut.notBare
    have hod := Range.ordered_iff.1 (h.ordered d hd)
    have hpenc := Range.encloses_iff_toNat.1 (Range.encloses_of_within hdp)
    rw [ne_eq, ← Position.toNat_inj] at hwide
    rw [Range.encloses_iff_toNat] at henc
    rw [Range.apart_iff] at hapart
    omega

/-- A span hangs from the last span around it if that one is open. -/
theorem parentId_of_isOpen (hs : s ∈ (FileForest.build set).spans) (ht : t ∈ set.toList)
    (hopen : set.IsOpen t s)
    (hlast : ∀ q ∈ set.toList, s.within q = true → q = t ∨ q.Before t) :
    s.parentId = some t.id := by
  rcases FileForest.parent_build h.ordered hs with ⟨-, hnone⟩ | ⟨p, hp, hsome, hp', hinner⟩
  · exact absurd hopen (hnone t ht)
  · rcases hinner t ht hopen with rfl | hpt
    · exact hsome
    · have htp := Span.before_of_within hpt
      rcases hlast p hp hp'.within with rfl | hpt'
      · exact hsome
      · exact absurd htp hpt'.asymm

/-- A span that is cut off misses a span around it. -/
theorem not_hangsInnermost (hs : s ∈ (FileForest.build set).spans) (ht : t ∈ set.toList)
    (hd : d ∈ set.toList) (hcut : set.CutsOff d t s) : ¬set.HangsInnermost s := by
  intro hang
  unfold HangsInnermost at hang
  rcases FileForest.parent_build h.ordered hs with ⟨hnone, -⟩ | ⟨p, hp, hsome, hopen, -⟩
  · rw [hnone] at hang
    have hout := hang t ht
    rw [hcut.within] at hout
    cases hout
  · rw [hsome] at hang
    obtain ⟨p', hp', hid, -, hinner⟩ := hang
    obtain rfl := SpanSet.eq_of_id hp' hp hid
    have hos := FileForest.ordered_of_mem_build h.ordered hs
    exact hinner t ht hcut.within (h.surrounds_of_cutsOff hos ht hd hp hcut hopen)

theorem hangsInnermost_of_free (hs : s ∈ (FileForest.build set).spans)
    (hfree : ∀ t ∈ set.toList, ∀ d ∈ set.toList, ¬set.CutsOff d t s) : set.HangsInnermost s := by
  unfold HangsInnermost
  by_cases hex : ∃ q ∈ set.toList, s.within q = true
  · obtain ⟨t, ht, hin, hlast⟩ := exists_last hex
    have hopen : set.IsOpen t s :=
      (h.isOpen_or_cutsOff (FileForest.ordered_of_mem_build h.ordered hs) ht hin hlast).resolve_right
        fun ⟨d, hd, hcut⟩ => hfree t ht d hd hcut
    rw [h.parentId_of_isOpen hs ht hopen hlast]
    refine ⟨t, ht, rfl, hin, fun q hq hsq hsur => ?_⟩
    have hafter := Span.before_of_surrounds hsur
    rcases hlast q hq hsq with rfl | hback
    · exact Span.not_before_self q hafter
    · exact hafter.asymm hback
  · rcases FileForest.parent_build h.ordered hs with ⟨hnone, -⟩ | ⟨p, hp, -, hopen, -⟩
    · rw [hnone]
      exact fun q hq => Bool.eq_false_iff.2 fun hin => hex ⟨q, hq, hin⟩
    · exact absurd ⟨p, hp, hopen.within⟩ hex

end Laminar

/-- In a forest of bodies that are equal, nested or apart, a span hangs from an innermost span
around it, or from none if there is none, if and only if no span that is no bare name cuts it off
from a span of one line. -/
theorem hangsInnermost_iff (h : set.Laminar) (hs : s ∈ (FileForest.build set).spans) :
    set.HangsInnermost s ↔ ∀ t ∈ set.toList, ∀ d ∈ set.toList, ¬set.CutsOff d t s :=
  ⟨fun hang _ ht _ hd hcut => h.not_hangsInnermost hs ht hd hcut hang,
    h.hangsInnermost_of_free hs⟩

/-- A structure of one line. -/
def lineStruct : Span :=
  ⟨"s", "STRUCT_DECL", "Cpp", ⟨⟨3, 7⟩, ⟨3, 8⟩⟩, ⟨⟨3, 0⟩, ⟨3, 40⟩⟩, "a", none⟩

/-- A field at the end of that line. -/
def lineField : Span :=
  ⟨"x", "FIELD_DECL", "Cpp", ⟨⟨3, 28⟩, ⟨3, 29⟩⟩, ⟨⟨3, 22⟩, ⟨3, 30⟩⟩, "c", none⟩

/-- The structure in a class with a method further down. -/
def classSet : SpanSet := .ofListKeepFirst
  [⟨"C", "CLASS_DECL", "Cpp", .lines 1 1, .lines 1 9, "b", none⟩, lineStruct, lineField,
    ⟨"m", "CXX_METHOD", "Cpp", .lines 5 5, .lines 5 7, "d", none⟩]

/-- The field hangs from the structure and not from the class. -/
theorem hangsInnermost_lineField :
    classSet.Laminar ∧
      lineField.hang (some lineStruct) ∈ (FileForest.build classSet).spans ∧
      (∀ t ∈ classSet.toList, ∀ d ∈ classSet.toList,
        ¬classSet.CutsOff d t (lineField.hang (some lineStruct))) ∧
      classSet.HangsInnermost (lineField.hang (some lineStruct)) := by
  have h : classSet.Laminar := by decide
  have hget : (FileForest.build classSet).spans[2]? =
      some (lineField.hang (some lineStruct)) := by cbv
  have hs := List.mem_of_getElem? hget
  have hfree : ∀ t ∈ classSet.toList, ∀ d ∈ classSet.toList,
      ¬classSet.CutsOff d t (lineField.hang (some lineStruct)) := by decide
  exact ⟨h, hs, hfree, (hangsInnermost_iff h hs).2 hfree⟩

/-- The structure with a method before the field. -/
def lineSet : SpanSet := .ofListKeepFirst
  [lineStruct, lineField,
    ⟨"m", "CXX_METHOD", "Cpp", ⟨⟨3, 14⟩, ⟨3, 15⟩⟩, ⟨⟨3, 10⟩, ⟨3, 20⟩⟩, "b", none⟩]

/-- The method cuts the field off: it is a root, although it lies within the structure. -/
theorem lineField_root :
    lineSet.Laminar ∧ lineField ∈ (FileForest.build lineSet).spans ∧
      lineField.parentId = none ∧ lineStruct ∈ lineSet.toList ∧
      lineField.within lineStruct = true ∧ ¬lineSet.HangsInnermost lineField := by
  have hget : (FileForest.build lineSet).spans[2]? = some lineField := by cbv
  have hm : lineStruct ∈ lineSet.toList := by decide
  have hin : lineField.within lineStruct = true := by decide
  refine ⟨by decide, List.mem_of_getElem? hget, rfl, hm, hin, fun h => ?_⟩
  have hout := h lineStruct hm
  rw [hin] at hout
  cases hout

end SpanSet

end SymbolAtlas
