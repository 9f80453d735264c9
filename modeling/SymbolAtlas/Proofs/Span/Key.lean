import Mathlib
import SymbolAtlas.Span

/-!
# What the key text of a span tells

A key text is read from its end: numbers hold neither separator and come last, so the coordinates
are told off one by one, and then the language and the kind, if these hold no `#` (`keyText_inj`).
What is left is the file and the name, with a `#` between them.
-/

namespace SymbolAtlas

/-! ## Parts of a text -/

/-- What follows the last separator is determined by the text. -/
theorem append_cons_inj_last {α : Type} {c : α} {s t u v : List α} (hu : c ∉ u) (hv : c ∉ v) :
    s ++ c :: u = t ++ c :: v ↔ s = t ∧ u = v := by
  refine ⟨fun h => ?_, fun ⟨hs, hu⟩ => hs ▸ hu ▸ rfl⟩
  rcases List.append_eq_append_iff.1 h with ⟨mid, hs, hc⟩ | ⟨mid, hs, hc⟩
  all_goals
    cases mid with
    | nil => simp_all
    | cons d mid => simp_all

/-- What stands before the first separator is determined by the list. -/
theorem append_cons_inj_first {α : Type} {c : α} {s t u v : List α} (hs : c ∉ s) (ht : c ∉ t) :
    s ++ c :: u = t ++ c :: v ↔ s = t ∧ u = v := by
  have key := append_cons_inj_last (c := c) (s := u.reverse) (t := v.reverse)
    (u := s.reverse) (v := t.reverse) (by simpa using hs) (by simpa using ht)
  rw [List.reverse_inj, List.reverse_inj] at key
  rw [← List.reverse_inj, and_comm, ← key]
  simp

theorem append_sep_inj {sep s t u v : String} {c : Char} (hsep : sep.toList = [c])
    (hu : c ∉ u.toList) (hv : c ∉ v.toList) : s ++ sep ++ u = t ++ sep ++ v ↔ s = t ∧ u = v := by
  simp only [← String.toList_inj, String.toList_append, List.append_assoc, hsep]
  exact append_cons_inj_last hu hv

/-! ## Numbers -/

theorem isDigit_of_mem_toString {w : UInt32} {c : Char} (h : c ∈ (toString w).toList) :
    c.isDigit = true := by
  have hw : (toString w).toList = Nat.toDigits 10 w.toNat := Nat.toList_repr
  rw [hw] at h
  exact Nat.isDigit_of_mem_toDigits (by decide) (by decide) h

theorem toString_word_inj {v w : UInt32} : toString v = toString w ↔ v = w :=
  ⟨fun h => UInt32.toNat_inj.1 (Nat.repr_inj.1 h), congrArg _⟩

/-- A separator that is no digit stands before a number. -/
theorem append_sep_number_inj {sep s t : String} {v w : UInt32} {c : Char}
    (hsep : sep.toList = [c]) (hc : ¬c.isDigit = true) :
    s ++ sep ++ toString v = t ++ sep ++ toString w ↔ s = t ∧ v = w := by
  have hnot : ∀ w : UInt32, c ∉ (toString w).toList := fun _ h => hc (isDigit_of_mem_toString h)
  rw [append_sep_inj hsep (hnot v) (hnot w), toString_word_inj]

/-! ## Key texts -/

theorem Position.eq_iff {p q : Position} : p = q ↔ p.line = q.line ∧ p.column = q.column := by
  cases p; cases q; simp

theorem Range.eq_iff {r s : Range} : r = s ↔ r.start = s.start ∧ r.stop = s.stop := by
  cases r; cases s; simp

namespace Span

variable {file name kind language file' name' kind' language' : String} {start start' : Position}
  {body body' : Range}

theorem keyText_inj (hkind : '#' ∉ kind.toList) (hkind' : '#' ∉ kind'.toList)
    (hlanguage : '#' ∉ language.toList) (hlanguage' : '#' ∉ language'.toList) :
    keyText file name kind language start body = keyText file' name' kind' language' start' body' ↔
      file ++ "#" ++ name = file' ++ "#" ++ name' ∧ kind = kind' ∧ language = language' ∧
        start = start' ∧ body = body' := by
  have sharp : "#".toList = ['#'] := rfl
  have lowLine : "_".toList = ['_'] := rfl
  simp only [keyText, coordinates, ← String.append_assoc, append_sep_number_inj lowLine (by decide),
    append_sep_number_inj sharp (by decide), append_sep_inj sharp hlanguage hlanguage',
    append_sep_inj sharp hkind hkind', Range.eq_iff, Position.eq_iff, and_assoc]

end Span

end SymbolAtlas
