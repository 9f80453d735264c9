import SymbolAtlas.Decimal.Bits
import SymbolAtlas.Json.Basic

/-!
# TOML values

What a TOML document denotes, and the JSON value that carries it: infinities and not-a-number
become `null`, and a date or time an object with one member.
-/

namespace SymbolAtlas

inductive Toml where
  | text (s : String)
  | integer (n : Int)
  | double (bits : UInt64)
  | bool (b : Bool)
  | moment (s : String)
  | array (items : List Toml)
  | table (entries : List (String × Toml))
  deriving Inhabited, Repr

namespace Toml

/-- The name of the member that holds a date or time. -/
def momentName : String := "$__toml_private_datetime"

mutual

def toJson : Toml → Json
  | text s => .str s
  | integer n => .int n
  | double bits => if Decimal.isFinite bits then .double bits else .null
  | bool b => .bool b
  | moment s => .obj [(momentName, .str s)]
  | array ts => .arr (listJson ts)
  | table es => .obj (entriesJson es)

def listJson : List Toml → List Json
  | [] => []
  | t :: ts => toJson t :: listJson ts

def entriesJson : List (String × Toml) → List (String × Json)
  | [] => []
  | (k, t) :: es => (k, toJson t) :: entriesJson es

end

end Toml

end SymbolAtlas
