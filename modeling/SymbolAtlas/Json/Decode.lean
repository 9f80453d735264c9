import SymbolAtlas.Decimal.Shortest
import SymbolAtlas.Json.Basic
import SymbolAtlas.Table
import SymbolAtlas.Text.Quoted

/-!
# Decoding records from JSON

A record is an object, or an array of its fields in declared order. Every field is decoded; if
several are at fault, the error of an object is that of its first faulty member by name, before
that of its first absent field, and the error of an array is that of its first faulty element.
-/

namespace SymbolAtlas.Json

/-! ## Errors -/

/-- What stands where something else was expected. -/
inductive Found where
  | bool (b : Bool)
  | integer (n : Int)
  | double (bits : UInt64)
  | text (s : String)
  | null
  | sequence
  | map
  deriving DecidableEq, Repr

def Found.describe : Found → String
  | bool b => "boolean `" ++ (if b then "true" else "false") ++ "`"
  | integer n => "integer `" ++ toString n ++ "`"
  | double bits => "floating point `" ++ Decimal.text bits ++ "`"
  | text s => "string " ++ Text.quoted s
  | null => "null"
  | sequence => "sequence"
  | map => "map"

def found : Json → Found
  | .null => .null
  | .bool b => .bool b
  | .int n => .integer n
  | .double bits => .double bits
  | .str s => .text s
  | .arr _ => .sequence
  | .obj _ => .map

inductive DecodeError where
  | invalidType (found : Found) (expected : String)
  | outOfRange (n : Int) (expected : String)
  | invalidLength (length : Nat) (expected : String)
  | missingField (name : String)
  | unknownField (name : String) (known : List String)
  | unknownVariant (name : String) (known : List String)
  deriving DecidableEq, Repr

def tick (name : String) : String := "`" ++ name ++ "`"

def DecodeError.message : DecodeError → String
  | invalidType f e => "invalid type: " ++ f.describe ++ ", expected " ++ e
  | outOfRange n e => "invalid value: " ++ (Found.integer n).describe ++ ", expected " ++ e
  | invalidLength n e => "invalid length " ++ toString n ++ ", expected " ++ e
  | missingField name => "missing field " ++ tick name
  | unknownField name known =>
    "unknown field " ++ tick name ++ ", expected one of " ++ ", ".intercalate (known.map tick)
  | unknownVariant name known =>
    "unknown variant " ++ tick name ++ ", expected one of " ++ ", ".intercalate (known.map tick)

abbrev Decoder (α : Type) := Json → Except DecodeError α

def mismatch {α : Type} (j : Json) (expected : String) : Except DecodeError α :=
  .error (.invalidType j.found expected)

/-! ## Scalars and collections -/

def asText : Decoder String
  | .str s => .ok s
  | j => mismatch j "a string"

def asBool : Decoder Bool
  | .bool b => .ok b
  | j => mismatch j "a boolean"

/-- An integer below `bound`, called `name` in errors. -/
def asNatBelow (bound : Nat) (name : String) : Decoder Nat
  | .int n => if 0 ≤ n ∧ n < bound then .ok n.toNat else .error (.outOfRange n name)
  | j => mismatch j name

def asWord : Decoder UInt32
  | .int n =>
    if 0 ≤ n ∧ n < UInt32.size then .ok (UInt32.ofNat n.toNat) else .error (.outOfRange n "u32")
  | j => mismatch j "u32"

def asCount : Decoder Nat := asNatBelow UInt64.size "usize"

def asOption {α : Type} (item : Decoder α) : Decoder (Option α)
  | .null => .ok none
  | j => (item j).map some

/-- One of several values, by its name. -/
def asChoice {α : Type} (name : α → String) (choices : List α) : Decoder α := fun j =>
  match asText j with
  | .error e => .error e
  | .ok s =>
    match choices.find? fun a => name a = s with
    | some a => .ok a
    | none => .error (.unknownVariant s (choices.map name))

def asItems {α : Type} (item : Decoder α) : List Json → Except DecodeError (List α)
  | [] => .ok []
  | j :: js =>
    match item j with
    | .error e => .error e
    | .ok a => (asItems item js).map (a :: ·)

def asList {α : Type} (item : Decoder α) : Decoder (List α)
  | .arr js => asItems item js
  | j => mismatch j "a sequence"

def asPair {α β : Type} (first : Decoder α) (second : Decoder β) : Decoder (α × β)
  | .arr [] => .error (.invalidLength 0 "a tuple of size 2")
  | .arr [a] =>
    match first a with
    | .error e => .error e
    | .ok _ => .error (.invalidLength 1 "a tuple of size 2")
  | .arr (a :: b :: rest) =>
    match first a, second b with
    | .error e, _ => .error e
    | .ok _, .error e => .error e
    | .ok x, .ok y =>
      if rest.isEmpty then .ok (x, y)
      else .error (.invalidLength (rest.length + 2) "fewer elements in array")
  | j => mismatch j "a tuple of size 2"

def asEntries {α : Type} (item : Decoder α) :
    List (String × Json) → Except DecodeError (List (String × α))
  | [] => .ok []
  | (k, j) :: ms =>
    match item j with
    | .error e => .error e
    | .ok a => (asEntries item ms).map ((k, a) :: ·)

def asTable {α : Type} (item : Decoder α) : Decoder (Table String α)
  | .obj ms => (asEntries item (Table.ofList ms).entries).map Table.ofList
  | j => mismatch j "a map"

/-- The object of a table. -/
def ofTable {α : Type} (write : α → Json) (t : Table String α) : Json :=
  .obj (t.entries.map fun e => (e.1, write e.2))

/-! ## Records -/

/-- An error and the member it stands at; an absent field stands nowhere. -/
structure Fault where
  member : Option String
  error : DecodeError

/-- A value, or everything that is wrong with it, in declared order. -/
inductive Checked (α : Type) where
  | valid (a : α)
  | faulty (first : Fault) (more : List Fault)

namespace Checked

variable {α β : Type}

def faults : Checked α → List Fault
  | valid _ => []
  | faulty f fs => f :: fs

def map (f : α → β) : Checked α → Checked β
  | valid a => valid (f a)
  | faulty e es => faulty e es

def ap : Checked (α → β) → Checked α → Checked β
  | valid f, valid a => valid (f a)
  | valid _, faulty e es => faulty e es
  | faulty e es, c => faulty e (es ++ c.faults)

instance : Functor Checked := ⟨fun f => map f, fun a => map fun _ => a⟩

instance : Applicative Checked where
  pure := valid
  seq f c := ap f (c ())

@[simp] theorem map_valid (f : α → β) (a : α) : f <$> valid a = valid (f a) := rfl

@[simp] theorem seq_valid (f : α → β) (a : α) : (valid f <*> valid a) = valid (f a) := rfl

@[simp] theorem pure_eq (a : α) : (pure a : Checked α) = valid a := rfl

end Checked

/-- The fields of a record on the way in. -/
structure Fields where
  find? : String → Option Json
  absent : String → DecodeError

namespace Fields

variable {α : Type}

def check (name : String) : Except DecodeError α → Checked α
  | .ok a => .valid a
  | .error e => .faulty ⟨some name, e⟩ []

def required (r : Fields) (name : String) (item : Decoder α) : Checked α :=
  match r.find? name with
  | some j => check name (item j)
  | none => .faulty ⟨none, r.absent name⟩ []

/-- A field that has a default when absent. -/
def withDefault (r : Fields) (name : String) (item : Decoder α) (default : α) : Checked α :=
  match r.find? name with
  | some j => check name (item j)
  | none => .valid default

/-- A field that may be absent or `null`. -/
def optional (r : Fields) (name : String) (item : Decoder α) : Checked (Option α) :=
  r.withDefault name (asOption item) none

end Fields

/-- What a record is called in errors, its fields in declared order, and whether others are
refused. -/
structure Shape where
  name : String
  fields : List String
  closed : Bool

/-- The fault of an object that is reported. -/
def firstFault (f : Fault) (fs : List Fault) : Fault :=
  fs.foldl (fun best f =>
    match best.member, f.member with
    | some a, some b => if compare b a = .lt then f else best
    | none, some _ => f
    | _, none => best) f

def Shape.unknown (s : Shape) (ms : List (String × Json)) : List Fault :=
  if s.closed then
    (ms.filter fun m => !s.fields.contains m.1).map fun m =>
      ⟨some m.1, .unknownField m.1 s.fields⟩
  else []

def Shape.elements (s : Shape) : String :=
  "struct " ++ s.name ++ " with " ++ toString s.fields.length ++
    if s.fields.length = 1 then " element" else " elements"

def asRecord {α : Type} (s : Shape) (body : Fields → Checked α) : Decoder α
  | .obj ms =>
    match body ⟨fun n => ms.lookup n, .missingField⟩, s.unknown ms with
    | .valid a, [] => .ok a
    | .valid _, f :: fs => .error (firstFault f fs).error
    | .faulty f fs, us => .error (firstFault f (fs ++ us)).error
  | .arr js =>
    match body ⟨fun n => (s.fields.zip js).lookup n, fun _ => .invalidLength js.length s.elements⟩ with
    | .faulty f _ => .error f.error
    | .valid a =>
      if s.fields.length < js.length then
        .error (.invalidLength js.length "fewer elements in array")
      else .ok a
  | j => mismatch j ("struct " ++ s.name)

end SymbolAtlas.Json
