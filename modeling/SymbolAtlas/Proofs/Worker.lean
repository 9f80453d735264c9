import SymbolAtlas.Proofs.Span.Key
import SymbolAtlas.Proofs.Wire.Span

/-!
# Merged outputs

The spans of a merge are united file by file (`get?_addSpans`), so the order of a merge shows only
where two outputs file different spans with one id under one file (`merge_comm_iff`). The id of a
span leaves out where its name ends and nothing else (`Span.MadeFor.eq_of_alike`), so what shows are
spans that differ in this end (`toJson_merge_comm_iff`).
-/

namespace SymbolAtlas

/-! ## Spans made for their files -/

namespace Span

variable {file : String} {s t : Span}

/-- The span was made for the file. -/
def MadeFor (file : String) (s : Span) : Prop :=
  s = make file s.name s.kind s.language s.nameRange s.body

instance : Decidable (s.MadeFor file) := inferInstanceAs (Decidable (_ = _))

/-- The text that the id of a span made for the file is the hash of. -/
def keyIn (file : String) (s : Span) : String :=
  keyText file s.name s.kind s.language s.nameRange.start s.body

/-- The kind and the language do not hold the separator of key texts. -/
def Plain (s : Span) : Prop := '#' ∉ s.kind.toList ∧ '#' ∉ s.language.toList

instance : Decidable s.Plain := inferInstanceAs (Decidable (_ ∧ _))

/-- The spans agree in all that an id is made from. -/
@[mk_iff] structure Alike (s t : Span) : Prop where
  name : s.name = t.name
  kind : s.kind = t.kind
  language : s.language = t.language
  nameStart : s.nameRange.start = t.nameRange.start
  body : s.body = t.body

instance : Decidable (s.Alike t) := decidable_of_iff' _ (alike_iff s t)

theorem MadeFor.id_eq (h : s.MadeFor file) :
    s.id = Sha256.hexDigest 16 (Text.utf8 (s.keyIn file)) := congrArg Span.id h

theorem MadeFor.id_of_alike (hs : s.MadeFor file) (ht : t.MadeFor file) (h : s.Alike t) :
    s.id = t.id := by
  rw [hs.id_eq, ht.id_eq, keyIn, keyIn, h.name, h.kind, h.language, h.nameStart, h.body]

theorem alike_of_keyIn (hs : s.Plain) (ht : t.Plain) (h : s.keyIn file = t.keyIn file) :
    s.Alike t := by
  obtain ⟨hname, hkind, hlanguage, hstart, hbody⟩ := (keyText_inj hs.1 ht.1 hs.2 ht.2).1 h
  exact ⟨(String.append_right_inj _).1 hname, hkind, hlanguage, hstart, hbody⟩

/-- Only the end of the name is left to tell spans apart that agree in what their ids are made
from. -/
theorem MadeFor.eq_of_alike (hs : s.MadeFor file) (ht : t.MadeFor file) (h : s.Alike t)
    (hstop : s.nameRange.stop = t.nameRange.stop) : s = t := by
  have hrange : s.nameRange = t.nameRange := Range.eq_iff.2 ⟨h.nameStart, hstop⟩
  rw [hs, ht, h.name, h.kind, h.language, hrange, h.body]

end Span

/-- Where both tables have a span with one id in one file, it is the same span. -/
def SpanTable.Consistent (spans other : SpanTable) : Prop :=
  ∀ p ∈ spans.filed, ∀ q ∈ other.filed, p.1 = q.1 → p.2.id = q.2.id → p.2 = q.2

instance {spans other : SpanTable} : Decidable (spans.Consistent other) :=
  inferInstanceAs (Decidable (∀ _ ∈ _, _))

namespace ParseOutput

variable {a b : ParseOutput}

/-! ## Merges -/

theorem get?_addSpans (spans other : SpanTable) (file : String) :
    (addSpans spans other).get? file = (spans.get? file).merge SpanSet.union (other.get? file) := by
  refine Table.look_foldl (·.get? file) other.ascending (fun e _ t => ?_) spans
  rw [Table.get?_insert]
  split
  · next h =>
    rw [h, Table.getD]
    cases t.get? e.1 with
    | none => exact congrArg some (SpanSet.empty_union e.2)
    | some set => rfl
  · rfl

theorem addSpans_comm_iff {spans other : SpanTable} :
    addSpans spans other = addSpans other spans ↔ spans.Consistent other := by
  refine ⟨fun h => ?_, fun h => Table.ext_get? fun file => ?_⟩
  · rintro ⟨file, s⟩ hp ⟨_, t⟩ hq rfl hid
    obtain ⟨set, hset, hs⟩ := SpanTable.mem_filed.1 hp
    obtain ⟨set', hset', ht⟩ := SpanTable.mem_filed.1 hq
    have hget := get?_addSpans spans other file
    rw [h, get?_addSpans, hset, hset'] at hget
    exact SpanSet.union_comm_iff.1 (Option.some.inj hget).symm s hs t ht hid
  · rw [get?_addSpans, get?_addSpans]
    cases hset : spans.get? file with
    | none => rw [Option.merge_none_left, Option.merge_none_right]
    | some set =>
      cases hset' : other.get? file with
      | none => rfl
      | some set' =>
        refine congrArg some (SpanSet.union_comm_iff.2 fun s hs t ht hid => ?_)
        exact h (file, s) (SpanTable.mem_filed.2 ⟨set, hset, hs⟩) (file, t)
          (SpanTable.mem_filed.2 ⟨set', hset', ht⟩) rfl hid

theorem merge_comm_iff : a.merge b = b.merge a ↔ a.spans.Consistent b.spans := by
  have hincludes : a.includes.union b.includes = b.includes.union a.includes :=
    KeySet.ext_mem fun _ => by rw [KeySet.mem_union, KeySet.mem_union, or_comm]
  rw [merge, merge, ParseOutput.mk.injEq, hincludes, eq_self, and_true]
  exact addSpans_comm_iff

/-! ## Outputs of parsers -/

/-- Every span was made for the file it is filed under. -/
def Made (o : ParseOutput) : Prop := ∀ p ∈ o.spans.filed, p.2.MadeFor p.1

instance : Decidable a.Made := inferInstanceAs (Decidable (∀ _ ∈ _, _))

theorem mem_filed_of_addSpan {o : ParseOutput} {file : String} {s : Span} {p : String × Span}
    (h : p ∈ (o.addSpan file s).spans.filed) : p ∈ o.spans.filed ∨ p = (file, s) := by
  obtain ⟨set, hset, hp⟩ := SpanTable.mem_filed.1 h
  rw [addSpan, Table.get?_insert] at hset
  split at hset
  · next hfile =>
    cases hset
    rcases SpanSet.mem_of_mem_insertNew hp with hp | hp
    · rw [← hfile, Table.getD] at hp
      cases hget : o.spans.get? p.1 with
      | none =>
        rw [hget] at hp
        exact absurd hp List.not_mem_nil
      | some set =>
        rw [hget] at hp
        exact .inl (SpanTable.mem_filed.2 ⟨set, hget, hp⟩)
    · exact .inr (Prod.ext hfile hp)
  · exact .inl (SpanTable.mem_filed.2 ⟨set, hset, hp⟩)

theorem made_empty : Made ∅ := fun _ h => nomatch h

theorem Made.addSpan {o : ParseOutput} {file : String} {s : Span} (h : o.Made)
    (hs : s.MadeFor file) : (o.addSpan file s).Made := fun p hp => by
  rcases mem_filed_of_addSpan hp with hp | rfl
  · exact h p hp
  · exact hs

/-- The ids of spans of one file are the same only where all that they are made from is: kinds and
languages do not hold the separator, and different key texts have different hashes. -/
@[mk_iff] structure Separated (a b : ParseOutput) : Prop where
  plainLeft : ∀ p ∈ a.spans.filed, p.2.Plain
  plainRight : ∀ q ∈ b.spans.filed, q.2.Plain
  noCollision : ∀ p ∈ a.spans.filed, ∀ q ∈ b.spans.filed, p.1 = q.1 → p.2.id = q.2.id →
    p.2.keyIn p.1 = q.2.keyIn q.1

instance : Decidable (a.Separated b) := decidable_of_iff' _ (separated_iff a b)

theorem consistent_iff_of_separated (ha : a.Made) (hb : b.Made) (h : a.Separated b) :
    a.spans.Consistent b.spans ↔ ∀ p ∈ a.spans.filed, ∀ q ∈ b.spans.filed, p.1 = q.1 →
      p.2.Alike q.2 → p.2.nameRange.stop = q.2.nameRange.stop := by
  refine ⟨fun hc p hp q hq hfile halike => ?_, fun hstop p hp q hq hfile hid => ?_⟩
  · have hid := (ha p hp).id_of_alike (hfile ▸ hb q hq) halike
    rw [hc p hp q hq hfile hid]
  · have hkey := h.noCollision p hp q hq hfile hid
    rw [← hfile] at hkey
    have halike := Span.alike_of_keyIn (h.plainLeft p hp) (h.plainRight q hq) hkey
    exact (ha p hp).eq_of_alike (hfile ▸ hb q hq) halike (hstop p hp q hq hfile halike)

/-- The order of two outputs does not show in the JSON form of their merge if and only if spans of a
file with one id are the same span. Where ids tell apart what key texts do, this is so if and only
if spans that agree in all else agree in where their names end. -/
theorem toJson_merge_comm_iff (ha : a.Made) (hb : b.Made) :
    ((a.merge b).toJson = (b.merge a).toJson ↔ a.spans.Consistent b.spans) ∧
      (a.Separated b → ((a.merge b).toJson = (b.merge a).toJson ↔
        ∀ p ∈ a.spans.filed, ∀ q ∈ b.spans.filed, p.1 = q.1 → p.2.Alike q.2 →
          p.2.nameRange.stop = q.2.nameRange.stop)) := by
  have hiff : (a.merge b).toJson = (b.merge a).toJson ↔ a.spans.Consistent b.spans :=
    toJson_injective.eq_iff.trans merge_comm_iff
  exact ⟨hiff, fun h => hiff.trans (consistent_iff_of_separated ha hb h)⟩

/-- A structure in a header, whose name ends in this column. -/
def structOutput (stop : UInt32) : ParseOutput := (∅ : ParseOutput).addSpan "file:///p/a.h"
  (.make "file:///p/a.h" "A" "STRUCT_DECL" "C" ⟨⟨1, 7⟩, ⟨1, stop⟩⟩ ⟨⟨1, 0⟩, ⟨3, 1⟩⟩)

theorem made_structOutput (stop : UInt32) : (structOutput stop).Made := made_empty.addSpan rfl

/-- The structure and one that follows it. -/
def structsOutput : ParseOutput := (structOutput 8).addSpan "file:///p/a.h"
  (.make "file:///p/a.h" "B" "STRUCT_DECL" "C" ⟨⟨10, 7⟩, ⟨10, 8⟩⟩ ⟨⟨10, 0⟩, ⟨12, 1⟩⟩)

/-- Two parsers that agree on the structure they both see. -/
theorem toJson_merge_structs :
    (structOutput 8).Made ∧ structsOutput.Made ∧ (structOutput 8).Separated structsOutput ∧
      ((structOutput 8).merge structsOutput).toJson =
        (structsOutput.merge (structOutput 8)).toJson := by
  have ha : (structOutput 8).Made := made_structOutput 8
  have hb : structsOutput.Made := ha.addSpan rfl
  have h : (structOutput 8).Separated structsOutput := by decide +kernel
  exact ⟨ha, hb, h, ((toJson_merge_comm_iff ha hb).2 h).2 (by decide +kernel)⟩

/-- Where two parsers have the name end in different columns, the first one is kept. -/
theorem toJson_merge_ends :
    (structOutput 8).Made ∧ (structOutput 9).Made ∧
      ((structOutput 8).merge (structOutput 9)).toJson ≠
        ((structOutput 9).merge (structOutput 8)).toJson := by
  refine ⟨made_structOutput 8, made_structOutput 9, fun h => ?_⟩
  exact absurd (merge_comm_iff.1 (toJson_injective h)) (by decide +kernel)

end ParseOutput

end SymbolAtlas
