import SymbolAtlas.Hash.Sha256
import SymbolAtlas.KeySet
import SymbolAtlas.Text.Utf8

/-!
# Macro flags

The preprocessor state a translation unit is compiled under: the set of its `-D` and `-U` flags. A
flag may be joined with its payload or be an argument before it; a flag on its own takes the next
argument whatever that is.
-/

namespace SymbolAtlas

structure Macros where
  flags : KeySet String
  deriving DecidableEq

namespace Macros

instance : EmptyCollection Macros := ⟨⟨∅⟩⟩

def isFlag (arg : String) : Bool := "-D".isPrefixOf arg || "-U".isPrefixOf arg

/-- The flags among compile arguments, joined with their payloads. -/
def flagsIn : List String → List String
  | [] => []
  | [arg] => if arg = "-D" ∨ arg = "-U" then [] else if isFlag arg then [arg] else []
  | arg :: next :: rest =>
    if arg = "-D" ∨ arg = "-U" then (arg ++ next) :: flagsIn rest
    else if isFlag arg then arg :: flagsIn (next :: rest)
    else flagsIn (next :: rest)

def ofArgs (args : List String) : Macros := ⟨.ofList (flagsIn args)⟩

/-- The flags in order, each ended by a zero byte. -/
def keyBytes (m : Macros) : List UInt8 := m.flags.toList.flatMap fun f => Text.utf8 f ++ [0]

/-- A quarter of a SHA-256 digest of the flags. -/
def hash (m : Macros) : String := Sha256.hexDigest 8 m.keyBytes

end Macros

end SymbolAtlas
