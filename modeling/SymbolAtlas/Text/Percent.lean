/-!
# Percent-encoding

A byte that a text cannot hold as it is stands as a percent sign with two hexadecimal digits.
-/

namespace SymbolAtlas.Percent

def hexVal? (b : UInt8) : Option UInt8 :=
  if 48 ≤ b ∧ b ≤ 57 then some (b - 48)
  else if 97 ≤ b ∧ b ≤ 102 then some (b - 87)
  else if 65 ≤ b ∧ b ≤ 70 then some (b - 55)
  else none

/-- A percent sign with two hexadecimal digits is a byte; any other stands for itself. -/
def decode : List UInt8 → List UInt8
  | 37 :: a :: b :: bs =>
    match hexVal? a, hexVal? b with
    | some x, some y => (x * 16 + y) :: decode bs
    | _, _ => 37 :: decode (a :: b :: bs)
  | b :: bs => b :: decode bs
  | [] => []
  termination_by bs => bs.length

def upperHex (n : UInt8) : UInt8 := if n < 10 then n + 48 else n + 55

/-- Encode the bytes that are not `plain`. -/
def encode (plain : UInt8 → Bool) (bs : List UInt8) : List UInt8 :=
  bs.flatMap fun b => if plain b then [b] else [37, upperHex (b / 16), upperHex (b % 16)]

end SymbolAtlas.Percent
