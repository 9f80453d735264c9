import Mathlib
import SymbolAtlas.Text.Utf8

/-!
# What UTF-8 tells

Bytes tell the string that they encode (`utf8_injective`), and reading gives it back (`lossy_utf8`).
An ASCII character is the only one that is written with its byte (`notMem_utf8`), so text can be cut
at its bytes (`splitOn_utf8`).
-/

namespace SymbolAtlas.Text

theorem utf8_injective : Function.Injective utf8 := by
  intro s t h
  rw [utf8, utf8, Array.toList_inj] at h
  exact String.toByteArray_inj.1 (ByteArray.ext h)

theorem utf8_eq_flatMap (s : String) : utf8 s = s.toList.flatMap String.utf8EncodeChar := by
  rw [utf8, String.toUTF8_eq_toByteArray, ← String.utf8Encode_toList, List.utf8Encode,
    List.data_toByteArray]

theorem utf8_append (s t : String) : utf8 (s ++ t) = utf8 s ++ utf8 t := by
  simp only [utf8_eq_flatMap, String.toList_append, List.flatMap_append]

theorem ofUtf8?_utf8 (s : String) : ofUtf8? (utf8 s) = some s := by
  have hbytes : (⟨(utf8 s).toArray⟩ : ByteArray) = s.toByteArray := by
    rw [utf8, Array.toArray_toList, String.toUTF8_eq_toByteArray]
  rw [ofUtf8?, hbytes, String.fromUTF8?, dif_pos s.isValidUTF8]
  rfl

theorem lossy_utf8 (s : String) : lossy (utf8 s) = s := by rw [lossy, ofUtf8?_utf8]

/-! ## ASCII characters -/

/-- The byte of an ASCII character. -/
def byteOf (c : Char) : UInt8 := UInt8.ofNat c.val.toNat

theorem ofNat_ne_ofNat {m n : Nat} (hm : m < 256) (hn : n < 256) (h : m ≠ n) :
    UInt8.ofNat m ≠ UInt8.ofNat n := by
  intro heq
  have heq := congrArg UInt8.toNat heq
  rw [UInt8.toNat_ofNat', UInt8.toNat_ofNat'] at heq
  omega

theorem utf8EncodeChar_of_ascii {c : Char} (hc : c.val.toNat < 128) :
    String.utf8EncodeChar c = [byteOf c] := by
  rw [String.utf8EncodeChar, if_pos (Nat.le_of_lt_succ hc)]
  rfl

/-- Where two bytes or more are written, each has its high bit set. -/
theorem notMem_utf8EncodeChar {c d : Char} (hc : c.val.toNat < 128) (h : c ≠ d) :
    byteOf c ∉ String.utf8EncodeChar d := by
  have hne : c.val.toNat ≠ d.val.toNat := fun heq => h (Char.ext (UInt32.toNat_inj.1 heq))
  simp only [String.utf8EncodeChar, byteOf]
  split_ifs <;>
    simp (disch := omega) only [List.mem_cons, List.not_mem_nil, ofNat_ne_ofNat, or_self,
      not_false_eq_true]

theorem notMem_utf8 {s : String} {c : Char} (hc : c.val.toNat < 128) (hs : c ∉ s.toList) :
    byteOf c ∉ utf8 s := by
  rw [utf8_eq_flatMap, List.mem_flatMap]
  rintro ⟨d, hd, h⟩
  exact notMem_utf8EncodeChar hc (fun heq => hs (heq ▸ hd)) h

/-! ## Cutting -/

theorem notMem_of_mem_splitOn {α : Type} [DecidableEq α] {sep : α} {xs piece : List α}
    (h : piece ∈ xs.splitOn sep) : sep ∉ piece := by
  induction xs generalizing piece with
  | nil =>
    rw [List.splitOn_nil, List.mem_singleton] at h
    exact h ▸ List.not_mem_nil
  | cons x xs ih =>
    rw [List.splitOn_cons_eq_if_modifyHead] at h
    split at h
    · rcases List.mem_cons.1 h with rfl | h
      · exact List.not_mem_nil
      · exact ih h
    · next hx =>
      cases hcut : xs.splitOn sep with
      | nil => exact absurd hcut (List.splitOn_ne_nil sep xs)
      | cons first rest =>
        rw [hcut] at h ih
        rcases List.mem_cons.1 h with rfl | h
        · rw [List.mem_cons]
          rintro (rfl | hmem)
          · exact hx BEq.rfl
          · exact ih (List.mem_cons_self ..) hmem
        · exact ih (List.mem_cons_of_mem _ h)

theorem flatMap_intercalate {α β : Type} (f : α → List β) {sep : α} {b : β} (hsep : f sep = [b])
    (pieces : List (List α)) :
    ([sep].intercalate pieces).flatMap f = [b].intercalate (pieces.map (·.flatMap f)) := by
  induction pieces with
  | nil => rfl
  | cons first rest ih =>
    cases rest with
    | nil => simp
    | cons second rest =>
      rw [List.intercalate_cons_cons, List.map_cons, List.map_cons, List.intercalate_cons_cons,
        List.flatMap_append, List.flatMap_append, ih, List.map_cons]
      simp [hsep]

/-- Text is cut at an ASCII character by cutting its bytes. -/
theorem splitOn_utf8 {c : Char} (hc : c.val.toNat < 128) (s : String) :
    (utf8 s).splitOn (byteOf c) = (s.toList.splitOn c).map fun cs => utf8 (String.ofList cs) := by
  have hbytes : (fun cs => utf8 (String.ofList cs)) = List.flatMap String.utf8EncodeChar := by
    funext cs
    rw [utf8_eq_flatMap, String.toList_ofList]
  have hjoin : utf8 s = [byteOf c].intercalate
      ((s.toList.splitOn c).map (·.flatMap String.utf8EncodeChar)) := by
    rw [← flatMap_intercalate _ (utf8EncodeChar_of_ascii hc), List.intercalate_splitOn,
      utf8_eq_flatMap]
  rw [hbytes, hjoin, List.splitOn_intercalate]
  · intro bytes hbytes
    obtain ⟨cs, hcs, rfl⟩ := List.mem_map.1 hbytes
    rw [List.mem_flatMap]
    rintro ⟨d, hd, h⟩
    exact notMem_utf8EncodeChar hc (fun heq => notMem_of_mem_splitOn hcs (heq ▸ hd)) h
  · simp [List.splitOn_ne_nil]

end SymbolAtlas.Text
