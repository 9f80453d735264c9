import SymbolAtlas.Json.Basic
import SymbolAtlas.Table

/-!
# Reading JSON text

Strict JSON: no comments, trailing commas, leading zeros or raw control characters; `\u` escapes
that are surrogates come in pairs. Arrays and objects nest at most `Reader.maxDepth` deep. Of
several members with one name the last counts, and the members come out sorted by name.

A number is read as one 64-bit significand, as far as its digits fit, and a power of ten; a double
is the rounded significand scaled by the rounded power. A number beyond the doubles is refused.
-/

namespace SymbolAtlas.Json.Reader

def maxDepth : Nat := 127

def isBlank (c : Char) : Bool := c = ' ' || c = '\n' || c = '\r' || c = '\t'

def skip (cs : List Char) : List Char := cs.dropWhile isBlank

def digitVal (c : Char) : Nat := c.toNat - 48

/-! ## Strings -/

def hexVal? (c : Char) : Option Nat :=
  if c.isDigit then some (c.toNat - 48)
  else if 'a' ≤ c ∧ c ≤ 'f' then some (c.toNat - 87)
  else if 'A' ≤ c ∧ c ≤ 'F' then some (c.toNat - 55)
  else none

def hexNat? (cs : List Char) : Option Nat :=
  cs.foldlM (fun n c => (hexVal? c).map (16 * n + ·)) 0

/-- Four hexadecimal digits at the front. -/
def hex4 (cs : List Char) : Option (Nat × List Char) :=
  if (cs.take 4).length = 4 then (hexNat? (cs.take 4)).map (·, cs.drop 4) else none

/-- The character of a `\u` escape, whose digits are at the front. -/
def unicodeEscape (cs : List Char) : Option (Char × List Char) := do
  let (u, rest) ← hex4 cs
  if 0xDC00 ≤ u ∧ u < 0xE000 then none
  else if 0xD800 ≤ u ∧ u < 0xDC00 then
    match rest with
    | '\\' :: 'u' :: rest =>
      let (v, rest) ← hex4 rest
      if 0xDC00 ≤ v ∧ v < 0xE000 then
        some (Char.ofNat (0x10000 + (u - 0xD800) * 0x400 + (v - 0xDC00)), rest)
      else none
    | _ => none
  else some (Char.ofNat u, rest)

def simpleEscape? : Char → Option Char
  | '"' => some '"'
  | '\\' => some '\\'
  | '/' => some '/'
  | 'b' => some '\x08'
  | 'f' => some '\x0c'
  | 'n' => some '\n'
  | 'r' => some '\r'
  | 't' => some '\t'
  | _ => none

/-- The rest of a string, after its opening quote; `seen` holds its characters, last first. -/
def text : Nat → List Char → List Char → Option (String × List Char)
  | 0, _, _ => none
  | fuel + 1, seen, cs =>
    match cs with
    | [] => none
    | '"' :: rest => some (String.ofList seen.reverse, rest)
    | '\\' :: 'u' :: rest => do
      let (c, rest) ← unicodeEscape rest
      text fuel (c :: seen) rest
    | '\\' :: e :: rest => do
      let c ← simpleEscape? e
      text fuel (c :: seen) rest
    | c :: rest => if c.toNat < 32 || c = '\\' then none else text fuel (c :: seen) rest

/-! ## Numbers -/

/-- Digits taken into a significand while it fits 64 bits, and how many were. -/
def absorb (sig : Nat) : List Char → Nat × Nat
  | [] => (sig, 0)
  | d :: ds =>
    let next := sig * 10 + digitVal d
    if next < UInt64.size then ((absorb next ds).1, (absorb next ds).2 + 1) else (sig, 0)

/-- The rounded `10 ^ k`. -/
def powerOfTen (k : Nat) : Float := Float.ofScientific 1 false k

/-- `x · 10 ^ e`, in steps of at most `10 ^ 308`; `none` beyond the doubles. -/
def scaled : Nat → Float → Int → Option Float
  | 0, x, _ => some x
  | steps + 1, x, e =>
    if e.natAbs ≤ 308 then
      if 0 ≤ e then
        let y := x * powerOfTen e.natAbs
        if y.isInf then none else some y
      else some (x / powerOfTen e.natAbs)
    else if x == 0 then some x
    else if 0 ≤ e then none
    else scaled steps (x / powerOfTen 308) (e + 308)

/-- The double `± sig · 10 ^ e`. -/
def doubleOf (negative : Bool) (sig : Nat) (e : Int) : Option Json :=
  (scaled 8 (UInt64.ofNat sig).toFloat e).map fun x => .double (if negative then -x else x).toBits

def natOf (ds : List Char) : Nat := ds.foldl (fun n d => n * 10 + digitVal d) 0

/-- The exponent after its letter: sign and digits. -/
def exponent (cs : List Char) : Option ((Bool × List Char) × List Char) :=
  let (negative, cs) :=
    match cs with
    | '+' :: rest => (false, rest)
    | '-' :: rest => (true, rest)
    | _ => (false, cs)
  let ds := cs.takeWhile Char.isDigit
  if ds.isEmpty then none else some ((negative, ds), cs.dropWhile Char.isDigit)

/-- An integer without fraction or exponent. -/
def integerOf (negative : Bool) (ds : List Char) : Option Json :=
  let n := natOf ds
  if negative then
    if 0 < n ∧ n ≤ Int64.minValue.toInt.natAbs then some (.int (-(n : Int)))
    else
      let (sig, used) := absorb 0 ds
      doubleOf true sig (ds.length - used)
  else if n < UInt64.size then some (.int n)
  else
    let (sig, used) := absorb 0 ds
    doubleOf false sig (ds.length - used)

/-- A number with fraction digits, an exponent or both. -/
def decimalOf (negative : Bool) (whole fraction : List Char) (exp : Option (Bool × List Char)) :
    Option Json :=
  let (sig, used) := absorb 0 whole
  let (sig, usedFraction) := absorb sig fraction
  let start : Int := (whole.length - used : Nat) - (usedFraction : Int)
  match exp with
  | none => doubleOf negative sig start
  | some (negativeExp, ds) =>
    let e := natOf ds
    if Int32.maxValue.toInt < e then
      if sig ≠ 0 && !negativeExp then none else doubleOf negative 0 0
    else doubleOf negative sig (if negativeExp then start - e else start + e)

/-- A number after its minus sign, if it has one. -/
def number (negative : Bool) (cs : List Char) : Option (Json × List Char) := do
  let whole := cs.takeWhile Char.isDigit
  let rest := cs.dropWhile Char.isDigit
  if whole.isEmpty || (1 < whole.length && whole.head? = some '0') then none
  let (fraction, rest) ←
    match rest with
    | '.' :: rest =>
      let ds := rest.takeWhile Char.isDigit
      if ds.isEmpty then none else some (ds, rest.dropWhile Char.isDigit)
    | _ => some ([], rest)
  let (exp, rest) ←
    match rest with
    | 'e' :: rest | 'E' :: rest => (exponent rest).map fun (e, rest) => (some e, rest)
    | _ => some (none, rest)
  let j ←
    if fraction.isEmpty && exp.isNone then integerOf negative whole
    else decimalOf negative whole fraction exp
  some (j, rest)

/-! ## Values -/

def keyword (word : String) (j : Json) (cs : List Char) : Option (Json × List Char) :=
  if word.toList.isPrefixOf cs then some (j, cs.drop word.length) else none

mutual

/-- A value at the front; `room` more levels of nesting are allowed. -/
def value : Nat → Nat → List Char → Option (Json × List Char)
  | 0, _, _ => none
  | fuel + 1, room, cs =>
    match skip cs with
    | [] => none
    | '"' :: rest => (text fuel [] rest).map fun (s, rest) => (.str s, rest)
    | '[' :: rest =>
      if room = 0 then none
      else
        match skip rest with
        | ']' :: rest => some (.arr [], rest)
        | rest => (items fuel (room - 1) rest).map fun (js, rest) => (.arr js, rest)
    | '\x7b' :: rest =>
      if room = 0 then none
      else
        match skip rest with
        | '\x7d' :: rest => some (.obj [], rest)
        | rest =>
          (members fuel (room - 1) rest).map fun (ms, rest) => (.obj (Table.ofList ms).entries, rest)
    | '-' :: rest => number true rest
    | c :: rest =>
      if c.isDigit then number false (c :: rest)
      else
        match c with
        | 'n' => keyword "null" .null (c :: rest)
        | 't' => keyword "true" (.bool true) (c :: rest)
        | 'f' => keyword "false" (.bool false) (c :: rest)
        | _ => none

/-- The values of an array and its closing bracket. -/
def items : Nat → Nat → List Char → Option (List Json × List Char)
  | 0, _, _ => none
  | fuel + 1, room, cs => do
    let (j, rest) ← value fuel room cs
    match skip rest with
    | ',' :: rest =>
      let (js, rest) ← items fuel room rest
      some (j :: js, rest)
    | ']' :: rest => some ([j], rest)
    | _ => none

/-- The members of an object and its closing brace. -/
def members : Nat → Nat → List Char → Option (List (String × Json) × List Char)
  | 0, _, _ => none
  | fuel + 1, room, cs =>
    match skip cs with
    | '"' :: rest => do
      let (name, rest) ← text fuel [] rest
      match skip rest with
      | ':' :: rest =>
        let (j, rest) ← value fuel room rest
        match skip rest with
        | ',' :: rest =>
          let (ms, rest) ← members fuel room rest
          some ((name, j) :: ms, rest)
        | '\x7d' :: rest => some ([(name, j)], rest)
        | _ => none
      | _ => none
    | _ => none

end

end Reader

/-- The value a text denotes, if it is JSON. -/
def parse? (s : String) : Option Json := do
  let cs := s.toList
  let (j, rest) ← Reader.value (cs.length + 1) Reader.maxDepth cs
  if (Reader.skip rest).isEmpty then some j else none

end SymbolAtlas.Json
