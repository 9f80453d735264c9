/-!
# JSON values

A number written as an integer within 64 bits stays an integer; every other number is a double,
held by its bits. So `1` and `1.0` are different values, as they are for a reader of records.
-/

namespace SymbolAtlas

inductive Json where
  | null
  | bool (b : Bool)
  | int (n : Int)
  | double (bits : UInt64)
  | str (s : String)
  | arr (items : List Json)
  | obj (members : List (String × Json))
  deriving Inhabited, Repr

namespace Json

def nat (n : Nat) : Json := .int n

def strs (ss : List String) : Json := .arr (ss.map .str)

/-- The value of an optional field that is written as `null` when absent. -/
def orNull {α : Type} (write : α → Json) : Option α → Json
  | none => .null
  | some a => write a

/-- A member that is left out when absent. -/
def optional {α : Type} (name : String) (write : α → Json) (a : Option α) :
    List (String × Json) := (a.map fun a => (name, write a)).toList

/-- The value under a name, in an object. -/
def member? (name : String) : Json → Option Json
  | .obj members => members.lookup name
  | _ => none

def isNull : Json → Bool
  | .null => true
  | _ => false

end Json

end SymbolAtlas
