import SymbolAtlas.Proofs.Span.Key

/-!
# What the id of a span tells

Hexadecimal text tells its bytes (`Sha256.hex_injective`), so two spans have one id only where their
key texts have digests with one first half. Where digests tell the two key texts apart, the ids tell
everything that the texts do (`Span.idFor_eq_iff`): a file holds no `#`, so it ends at the first one,
and what is left is the name, whatever that holds.
-/

namespace SymbolAtlas

namespace Sha256

/-! ## Hexadecimal -/

theorem digitChar_inj {m n : Nat} (hm : m < 16) (hn : n < 16)
    (h : Nat.digitChar m = Nat.digitChar n) : m = n := by
  have hall : ∀ m n : Fin 16, Nat.digitChar m = Nat.digitChar n → m = n := by decide
  exact Fin.val_eq_of_eq (hall ⟨m, hm⟩ ⟨n, hn⟩ h)

theorem hexByte_injective : Function.Injective hexByte := by
  intro a b h
  have ha := a.toNat_lt
  have hb := b.toNat_lt
  obtain ⟨hhigh, hlow⟩ : Nat.digitChar (a.toNat / 16) = Nat.digitChar (b.toNat / 16) ∧
      Nat.digitChar (a.toNat % 16) = Nat.digitChar (b.toNat % 16) := by
    simpa [hexByte] using h
  have hdiv := digitChar_inj (by omega) (by omega) hhigh
  have hmod := digitChar_inj (by omega) (by omega) hlow
  exact UInt8.toNat_inj.1 (by omega)

/-- Blocks of one length are determined by what they make together. -/
theorem flatMap_hexByte_injective : Function.Injective (List.flatMap hexByte) := by
  intro xs
  induction xs with
  | nil =>
    intro ys h
    cases ys with
    | nil => rfl
    | cons y ys => cases h
  | cons x xs ih =>
    intro ys h
    cases ys with
    | nil => cases h
    | cons y ys =>
      obtain ⟨hhead, htail⟩ := List.append_inj (h : hexByte x ++ _ = hexByte y ++ _) rfl
      rw [hexByte_injective hhead, ih htail]

theorem hex_injective : Function.Injective hex := fun _ _ h =>
  flatMap_hexByte_injective (String.ofList_injective h)

/-- The first `n` bytes of the digests tell the texts apart. No digest does this for all texts. -/
def Separates (n : Nat) (s t : String) : Prop :=
  (digest (Text.utf8 s)).take n = (digest (Text.utf8 t)).take n → s = t

instance {n : Nat} {s t : String} : Decidable (Separates n s t) :=
  inferInstanceAs (Decidable (_ → _))

theorem hexDigest_eq_iff {n : Nat} {s t : String} (h : Separates n s t) :
    hexDigest n (Text.utf8 s) = hexDigest n (Text.utf8 t) ↔ s = t :=
  ⟨fun hdigest => h (hex_injective hdigest), fun hst => hst ▸ rfl⟩

end Sha256

namespace Span

variable {file name kind language file' name' kind' language' : String}
  {nameRange nameRange' body body' : Range}

theorem file_name_inj (hfile : '#' ∉ file.toList) (hfile' : '#' ∉ file'.toList) :
    file ++ "#" ++ name = file' ++ "#" ++ name' ↔ file = file' ∧ name = name' := by
  have sharp : "#".toList = ['#'] := rfl
  simp only [← String.toList_inj, String.toList_append, List.append_assoc, sharp]
  exact append_cons_inj_first hfile hfile'

/-- Where the digests of the two key texts differ if these do, ids are equal if and only if the spans
agree in file, name, kind, language, where the name starts, and the body. -/
theorem idFor_eq_iff (hfile : '#' ∉ file.toList) (hfile' : '#' ∉ file'.toList)
    (hkind : '#' ∉ kind.toList) (hkind' : '#' ∉ kind'.toList)
    (hlanguage : '#' ∉ language.toList) (hlanguage' : '#' ∉ language'.toList)
    (hsha : Sha256.Separates 16 (keyText file name kind language nameRange.start body)
      (keyText file' name' kind' language' nameRange'.start body')) :
    idFor file name kind language nameRange body =
        idFor file' name' kind' language' nameRange' body' ↔
      file = file' ∧ name = name' ∧ kind = kind' ∧ language = language' ∧
        nameRange.start = nameRange'.start ∧ body = body' := by
  rw [idFor, idFor, Sha256.hexDigest_eq_iff hsha, keyText_inj hkind hkind' hlanguage hlanguage',
    file_name_inj hfile hfile', and_assoc]

/-- Two structures at one place, one of them named after where it stands. -/
theorem idFor_anonymous :
    let name := "(anonymous struct at a.h#STRUCT_DECL#C#3_7)"
    let nameRange : Range := ⟨⟨3, 7⟩, ⟨3, 8⟩⟩
    let body : Range := ⟨⟨3, 0⟩, ⟨9, 1⟩⟩
    Sha256.Separates 16 (keyText "file:///p/a.h" name "STRUCT_DECL" "C" nameRange.start body)
        (keyText "file:///p/a.h" "A" "STRUCT_DECL" "C" nameRange.start body) ∧
      idFor "file:///p/a.h" name "STRUCT_DECL" "C" nameRange body ≠
        idFor "file:///p/a.h" "A" "STRUCT_DECL" "C" nameRange body := by
  intro name nameRange body
  have hsha : Sha256.Separates 16
      (keyText "file:///p/a.h" name "STRUCT_DECL" "C" nameRange.start body)
      (keyText "file:///p/a.h" "A" "STRUCT_DECL" "C" nameRange.start body) := by decide +kernel
  refine ⟨hsha, fun h => ?_⟩
  have hsame := (idFor_eq_iff (by decide) (by decide) (by decide) (by decide) (by decide) (by decide)
    hsha).1 h
  exact absurd hsame.2.1 (by decide)

end Span

end SymbolAtlas
