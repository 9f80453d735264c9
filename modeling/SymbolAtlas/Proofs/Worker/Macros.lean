import Mathlib
import SymbolAtlas.Proofs.Span.Key
import SymbolAtlas.Proofs.Text.Utf8
import SymbolAtlas.Worker.Macros

/-!
# What the key bytes of macro flags tell

Each flag is ended by a zero byte, and UTF-8 has that byte for U+0000 alone. Bytes are read from
their start: up to the first zero stands the first flag. So flags without U+0000 are told by their
key bytes (`Macros.keyBytes_inj`).
-/

namespace SymbolAtlas

/-! ## Blocks with an end -/

/-- Blocks that each end at the first separator are determined by what they make together. -/
theorem flatMap_ended_inj {α β : Type} {c : β} {block : α → List β}
    (hblock : Function.Injective block) {xs ys : List α} (hxs : ∀ x ∈ xs, c ∉ block x)
    (hys : ∀ y ∈ ys, c ∉ block y)
    (h : xs.flatMap (fun x => block x ++ [c]) = ys.flatMap fun y => block y ++ [c]) : xs = ys := by
  induction xs generalizing ys with
  | nil =>
    cases ys with
    | nil => rfl
    | cons y ys => simp at h
  | cons x xs ih =>
    cases ys with
    | nil => simp at h
    | cons y ys =>
      rw [List.forall_mem_cons] at hxs hys
      simp only [List.flatMap_cons, List.append_assoc, List.singleton_append] at h
      obtain ⟨hhead, htail⟩ := (append_cons_inj_first hxs.1 hys.1).1 h
      rw [hblock hhead, ih hxs.2 hys.2 htail]

namespace Macros

/-- No flag holds the character whose byte ends flags. -/
def Plain (m : Macros) : Prop := ∀ f ∈ m.flags.toList, '\x00' ∉ f.toList

instance {m : Macros} : Decidable m.Plain := inferInstanceAs (Decidable (∀ _ ∈ _, _))

theorem zero_notMem_utf8 {f : String} (h : '\x00' ∉ f.toList) : 0 ∉ Text.utf8 f :=
  Text.notMem_utf8 (c := '\x00') (by decide) h

theorem keyBytes_inj {m m' : Macros} (hm : m.Plain) (hm' : m'.Plain) :
    m.keyBytes = m'.keyBytes ↔ m = m' := by
  refine ⟨fun h => ?_, congrArg _⟩
  have hlist : m.flags.toList = m'.flags.toList :=
    flatMap_ended_inj Text.utf8_injective (fun f hf => zero_notMem_utf8 (hm f hf))
      (fun f hf => zero_notMem_utf8 (hm' f hf)) h
  have hflags : m.flags = m'.flags := KeySet.ext_mem fun f => by
    rw [← KeySet.mem_toList, hlist, KeySet.mem_toList]
  cases m; cases m'; cases hflags; rfl

end Macros

end SymbolAtlas
