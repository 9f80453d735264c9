import SymbolAtlas.Decimal.Shortest
import SymbolAtlas.Json.Basic

/-!
# JSON text of a value

Compact text: no blanks, and only the characters that must be escaped are.
-/

namespace SymbolAtlas.Json

def hexDigit (n : Nat) : Char := if n < 10 then Char.ofNat (48 + n) else Char.ofNat (87 + n)

def escape (c : Char) : String :=
  if c = '"' then "\\\""
  else if c = '\\' then "\\\\"
  else if c.toNat < 32 then
    String.ofList ['\\', 'u', '0', '0', hexDigit (c.toNat / 16), hexDigit (c.toNat % 16)]
  else c.toString

def writeText (out : String) (s : String) : String :=
  (s.toList.foldl (fun out c => out ++ escape c) (out ++ "\"")) ++ "\""

mutual

/-- Append the text of a value. -/
def write (out : String) : Json → String
  | .null => out ++ "null"
  | .bool b => out ++ if b then "true" else "false"
  | .int n => out ++ toString n
  | .double bits => out ++ Decimal.text bits
  | .str s => writeText out s
  | .arr items => writeItems (out ++ "[") false items ++ "]"
  | .obj members => writeMembers (out ++ "\x7b") false members ++ "\x7d"

def writeItems (out : String) (comma : Bool) : List Json → String
  | [] => out
  | j :: js => writeItems (write (if comma then out ++ "," else out) j) true js

def writeMembers (out : String) (comma : Bool) : List (String × Json) → String
  | [] => out
  | (name, j) :: ms =>
    let out := writeText (if comma then out ++ "," else out) name ++ ":"
    writeMembers (write out j) true ms

end

def render (j : Json) : String := write "" j

end SymbolAtlas.Json
