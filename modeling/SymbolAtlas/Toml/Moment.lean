import SymbolAtlas.Toml.Scalar

/-!
# Dates and times in disguise

A date or time can be written as a table, too: one whose first key is `Toml.momentName`, with its
text as the value. Such a table is nothing else, so without a valid text there it is no value, and
its other keys do not count.
-/

namespace SymbolAtlas.Toml

/-- The text of one date, time or both. -/
def isMoment (s : String) : Bool := (Reader.moment s.toList).any (·.2.isEmpty)

mutual

/-- The value with its dates and times in disguise laid open. -/
def reveal? : Toml → Option Toml
  | table ((k, v) :: es) =>
    if k = momentName then
      match v with
      | text s => if isMoment s then some (.moment s) else none
      | _ => none
    else do
      let v ← reveal? v
      some (.table ((k, v) :: (← revealEntries? es)))
  | array ts => (revealList? ts).map .array
  | t => some t

def revealList? : List Toml → Option (List Toml)
  | [] => some []
  | t :: ts => do
    let t ← reveal? t
    some (t :: (← revealList? ts))

def revealEntries? : List (String × Toml) → Option (List (String × Toml))
  | [] => some []
  | (k, t) :: es => do
    let t ← reveal? t
    some ((k, t) :: (← revealEntries? es))

end

end SymbolAtlas.Toml
