import Mathlib.Data.List.Basic
import SymbolAtlas.Proofs.Span
import SymbolAtlas.Wire.Span

/-!
# What the JSON form of a parse output tells

Nothing is lost in writing: two outputs with one JSON form have the same files, the same spans with
all their fields, and the same inclusions (`ParseOutput.toJson_injective`).
-/

namespace SymbolAtlas

open Function

theorem wordJson_inj {v w : UInt32} : wordJson v = wordJson w ↔ v = w := by
  rw [wordJson, wordJson, Json.int.injEq, Int.natCast_inj, UInt32.toNat_inj]

namespace Json

theorem str_injective : Injective str := fun _ _ => str.inj

theorem optional_inj {α : Type} {write : α → Json} (h : Injective write) {name : String}
    {a b : Option α} : optional name write a = optional name write b ↔ a = b := by
  cases a <;> cases b <;> simp [optional, h.eq_iff]

theorem ofTable_injective {α : Type} {write : α → Json} (h : Injective write) :
    Injective (ofTable write) := by
  have hentry : Injective fun e : String × α => (e.1, write e.2) := fun d e hde =>
    Prod.ext (Prod.ext_iff.1 hde).1 (h (Prod.ext_iff.1 hde).2)
  exact fun s t hst => Table.ext (List.map_injective_iff.2 hentry (obj.inj hst))

end Json

theorem Range.toJson_injective : Injective Range.toJson := by
  rintro ⟨⟨_, _⟩, _, _⟩ ⟨⟨_, _⟩, _, _⟩ h
  simpa [toJson, members, wordJson_inj, and_assoc] using h

theorem Span.toJson_injective : Injective Span.toJson := by
  rintro ⟨⟩ ⟨⟩ h
  simpa [toJson, Json.optional_inj Json.str_injective, Range.toJson_injective.eq_iff] using h

theorem SpanSet.toJson_injective : Injective SpanSet.toJson := fun _ _ h =>
  eq_of_toList (List.map_injective_iff.2 Span.toJson_injective (Json.arr.inj h))

theorem ParseOutput.toJson_injective : Injective ParseOutput.toJson := by
  rintro ⟨spans, includes⟩ ⟨spans', includes'⟩ h
  simp only [toJson, Json.obj.injEq, List.cons.injEq, Prod.mk.injEq, true_and, and_true,
    Json.arr.injEq] at h
  obtain ⟨hspans, hincludes⟩ := h
  have hpair : Injective fun i : Inclusion => Json.strs [i.including, i.included] := by
    rintro ⟨_, _⟩ ⟨_, _⟩ hi
    simpa [Json.strs] using hi
  rw [Json.ofTable_injective SpanSet.toJson_injective hspans,
    KeySet.eq_of_toList (List.map_injective_iff.2 hpair hincludes)]

end SymbolAtlas
