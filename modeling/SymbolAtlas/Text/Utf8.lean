/-!
# UTF-8

Encoding to a list of bytes, and decoding that puts U+FFFD for what is ill-formed: each longest
start of a character that cannot go on counts once.
-/

namespace SymbolAtlas.Text

/-- The UTF-8 bytes of a string. -/
def utf8 (s : String) : List UInt8 := s.toUTF8.data.toList

/-- The string that the bytes encode, if they are well formed. -/
def ofUtf8? (bytes : List UInt8) : Option String := String.fromUTF8? ⟨bytes.toArray⟩

/-- What a lead byte asks for: bytes to follow, the range of the first of them, and its own bits. -/
def lead? (b : Nat) : Option (Nat × Nat × Nat × Nat) :=
  if b < 0x80 then some (0, 0, 0, b)
  else if b < 0xC2 then none
  else if b < 0xE0 then some (1, 0x80, 0xBF, b - 0xC0)
  else if b = 0xE0 then some (2, 0xA0, 0xBF, 0)
  else if b = 0xED then some (2, 0x80, 0x9F, 13)
  else if b < 0xF0 then some (2, 0x80, 0xBF, b - 0xE0)
  else if b = 0xF0 then some (3, 0x90, 0xBF, 0)
  else if b < 0xF4 then some (3, 0x80, 0xBF, b - 0xF0)
  else if b = 0xF4 then some (3, 0x80, 0x8F, 4)
  else none

/-- Decode with `owed` more bytes to come for the character begun as `bits`, the next of them
between `lo` and `hi`. -/
def decodeLossy (owed lo hi bits : Nat) : List UInt8 → List Char
  | [] => if owed = 0 then [] else ['\uFFFD']
  | b :: bs =>
    let b := b.toNat
    if 0 < owed && lo ≤ b && b ≤ hi then
      let bits := bits * 64 + (b - 0x80)
      if owed = 1 then Char.ofNat bits :: decodeLossy 0 0 0 0 bs
      else decodeLossy (owed - 1) 0x80 0xBF bits bs
    else
      let broken := if owed = 0 then [] else ['\uFFFD']
      match lead? b with
      | none => broken ++ '\uFFFD' :: decodeLossy 0 0 0 0 bs
      | some (0, _, _, own) => broken ++ Char.ofNat own :: decodeLossy 0 0 0 0 bs
      | some (n, lo, hi, own) => broken ++ decodeLossy n lo hi own bs

/-- The string of the bytes, with U+FFFD for what is ill-formed. -/
def lossy (bytes : List UInt8) : String :=
  match ofUtf8? bytes with
  | some s => s
  | none => String.ofList (decodeLossy 0 0 0 0 bytes)

end SymbolAtlas.Text
