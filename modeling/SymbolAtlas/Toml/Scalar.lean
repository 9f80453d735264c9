import SymbolAtlas.Json.Reader
import SymbolAtlas.Toml.Value

/-!
# Strings, numbers, dates and times of TOML

Each function reads a prefix of the text and gives what follows it, or nothing where the text is
ill formed.
-/

namespace SymbolAtlas.Toml.Reader

open Json.Reader (hexNat? digitVal natOf)

def isSpace (c : Char) : Bool := c = ' ' || c = '\t'

def skipSpace (cs : List Char) : List Char := cs.dropWhile isSpace

/-- A character that may stand in a comment: no control but the tab. -/
def isPrintable (c : Char) : Bool := c = '\t' || (32 ≤ c.toNat && c.toNat ≠ 127)

def newline? : List Char → Option (List Char)
  | '\n' :: cs => some cs
  | '\r' :: '\n' :: cs => some cs
  | _ => none

/-! ## Strings -/

/-- The character of an escape, after its backslash. -/
def escape? : List Char → Option (Char × List Char)
  | 'b' :: cs => some ('\x08', cs)
  | 't' :: cs => some ('\t', cs)
  | 'n' :: cs => some ('\n', cs)
  | 'f' :: cs => some ('\x0c', cs)
  | 'r' :: cs => some ('\r', cs)
  | '"' :: cs => some ('"', cs)
  | '\\' :: cs => some ('\\', cs)
  | 'u' :: cs => scalar 4 cs
  | 'U' :: cs => scalar 8 cs
  | _ => none
where
  /-- A code point in `n` hexadecimal digits. -/
  scalar (n : Nat) (cs : List Char) : Option (Char × List Char) :=
    if (cs.take n).length = n then
      match hexNat? (cs.take n) with
      | some u => if u.isValidChar then some (Char.ofNat u, cs.drop n) else none
      | none => none
    else none

/-- The rest of a one-line string in double quotes; `seen` is last first. -/
def basic : Nat → List Char → List Char → Option (String × List Char)
  | 0, _, _ => none
  | fuel + 1, seen, cs =>
    match cs with
    | '"' :: cs => some (String.ofList seen.reverse, cs)
    | '\\' :: cs => do
      let (c, cs) ← escape? cs
      basic fuel (c :: seen) cs
    | c :: cs => if isPrintable c then basic fuel (c :: seen) cs else none
    | [] => none

/-- The rest of a one-line string in single quotes. -/
def literal (cs : List Char) : Option (String × List Char) :=
  let body := cs.takeWhile fun c => isPrintable c && c ≠ '\''
  match cs.drop body.length with
  | '\'' :: cs => some (String.ofList body, cs)
  | _ => none

/-- A run of quotes in a string of several lines: up to two belong to the text, and three more
close it. -/
def quoteRun (quote : Char) (cs : List Char) : List Char × Bool × List Char :=
  let n := (cs.takeWhile (· = quote)).length
  if n < 3 then (List.replicate n quote, false, cs.drop n)
  else
    let own := min (n - 3) 2
    (List.replicate own quote, true, cs.drop (own + 3))

/-- A line end after the opening quotes does not count. -/
def dropFirstNewline (cs : List Char) : List Char := (newline? cs).getD cs

/-- Blanks and line ends after a backslash at the end of a line. -/
def skipBlankLines : List Char → List Char
  | ' ' :: cs => skipBlankLines cs
  | '\t' :: cs => skipBlankLines cs
  | '\n' :: cs => skipBlankLines cs
  | '\r' :: '\n' :: cs => skipBlankLines cs
  | cs => cs

/-- The rest of a string of several lines; escapes count where `quote` is the double quote. -/
def multiline (quote : Char) : Nat → List Char → List Char → Option (String × List Char)
  | 0, _, _ => none
  | fuel + 1, seen, cs =>
    match cs with
    | [] => none
    | c :: rest =>
      if c = quote then
        let (own, closed, rest) := quoteRun quote (c :: rest)
        if closed then some (String.ofList (own ++ seen).reverse, rest)
        else multiline quote fuel (own ++ seen) rest
      else if c = '\\' && quote = '"' then
        match newline? (skipSpace rest) with
        | some rest => multiline quote fuel seen (skipBlankLines rest)
        | none => do
          let (c, rest) ← escape? rest
          multiline quote fuel (c :: seen) rest
      else
        match newline? (c :: rest) with
        | some rest => multiline quote fuel ('\n' :: seen) rest
        | none => if isPrintable c then multiline quote fuel (c :: seen) rest else none

/-- A string of any of the four forms. -/
def string (cs : List Char) : Option (String × List Char) :=
  let fuel := cs.length + 1
  match cs with
  | '"' :: '"' :: '"' :: cs => multiline '"' fuel [] (dropFirstNewline cs)
  | '\'' :: '\'' :: '\'' :: cs => multiline '\'' fuel [] (dropFirstNewline cs)
  | '"' :: cs => basic fuel [] cs
  | '\'' :: cs => literal cs
  | _ => none

/-! ## Numbers -/

/-- Digits of a class after another digit, single underscores between them. -/
def moreDigits (isDigit : Char → Bool) : List Char → Option (List Char × List Char)
  | [] => some ([], [])
  | '_' :: c :: cs =>
    if isDigit c then (moreDigits isDigit cs).map fun (ds, cs) => (c :: ds, cs) else none
  | c :: cs =>
    if isDigit c then (moreDigits isDigit cs).map fun (ds, cs) => (c :: ds, cs)
    else if c = '_' then none
    else some ([], c :: cs)

def digits (isDigit : Char → Bool) : List Char → Option (List Char × List Char)
  | [] => none
  | c :: cs =>
    if isDigit c then (moreDigits isDigit cs).map fun (ds, cs) => (c :: ds, cs) else none

/-- A whole number in decimal, without leading zeros. -/
def whole : List Char → Option (List Char × List Char)
  | '0' :: cs => some (['0'], cs)
  | cs => digits Char.isDigit cs

def sign : List Char → Bool × List Char
  | '+' :: cs => (false, cs)
  | '-' :: cs => (true, cs)
  | cs => (false, cs)

/-- The double nearest to `± ds · 10 ^ e`; beyond the doubles an infinity. -/
def nearest (negative : Bool) (ds : List Char) (e : Int) : UInt64 :=
  let m := natOf ds
  let size := (toString m).length
  let x : Float :=
    if m = 0 || e + size < -400 then 0
    else if 400 < e + size then Float.ofBits 0x7FF0000000000000
    else Float.ofScientific m (e < 0) e.natAbs
  (if negative then -x else x).toBits

def positiveInfinity : UInt64 := 0x7FF0000000000000

def negativeInfinity : UInt64 := 0xFFF0000000000000

def notANumber : UInt64 := 0x7FF8000000000000

/-- The exponent after its letter. -/
def exponent (cs : List Char) : Option (Int × List Char) := do
  let (negative, cs) := sign cs
  let (ds, cs) ← digits Char.isDigit cs
  let e : Int := natOf ds
  some (if negative then -e else e, cs)

/-- A double beyond the largest is refused; below the least it is an infinity. -/
def double (negative : Bool) (ds : List Char) (e : Int) (cs : List Char) :
    Option (Toml × List Char) :=
  let bits := nearest negative ds e
  if bits = positiveInfinity then none else some (.double bits, cs)

/-- What follows the digits before the point: a fraction, an exponent, or the end of an integer. -/
def afterWhole (negative : Bool) (ds : List Char) (cs : List Char) : Option (Toml × List Char) :=
  match cs with
  | '.' :: cs => do
    let (fs, cs) ← digits Char.isDigit cs
    match cs with
    | 'e' :: cs | 'E' :: cs =>
      let (e, cs) ← exponent cs
      double negative (ds ++ fs) (e - fs.length) cs
    | _ => double negative (ds ++ fs) (-fs.length) cs
  | 'e' :: cs | 'E' :: cs => do
    let (e, cs) ← exponent cs
    double negative ds e cs
  | _ =>
    let n : Int := natOf ds
    let n := if negative then -n else n
    if Int64.minValue.toInt ≤ n ∧ n ≤ Int64.maxValue.toInt then some (.integer n, cs) else none

/-- The digits of a number in base `base`, after its marker. -/
def based (base : Nat) (cs : List Char) : Option (Toml × List Char) := do
  let value := fun c : Char => (Json.Reader.hexVal? c).filter (· < base)
  let (ds, cs) ← digits (fun c => (value c).isSome) cs
  let n := ds.foldl (fun n d => n * base + (value d).getD 0) 0
  if n ≤ Int64.maxValue.toInt.toNat then some (.integer n, cs) else none

def number (cs : List Char) : Option (Toml × List Char) :=
  match cs with
  | '0' :: 'x' :: cs => based 16 cs
  | '0' :: 'o' :: cs => based 8 cs
  | '0' :: 'b' :: cs => based 2 cs
  | cs =>
    let (negative, cs) := sign cs
    match cs with
    | 'i' :: 'n' :: 'f' :: cs =>
      some (.double (if negative then negativeInfinity else positiveInfinity), cs)
    | 'n' :: 'a' :: 'n' :: cs => some (.double notANumber, cs)
    | cs => do
      let (ds, cs) ← whole cs
      afterWhole negative ds cs

/-! ## Dates and times -/

/-- Exactly `n` digits, as a number from `lo` to `hi`. -/
def field (n lo hi : Nat) (cs : List Char) : Option (Nat × List Char) :=
  let ds := cs.take n
  if ds.length = n && ds.all Char.isDigit && lo ≤ natOf ds && natOf ds ≤ hi then
    some (natOf ds, cs.drop n)
  else none

def mark (c : Char) : List Char → Option (List Char)
  | d :: cs => if c = d then some cs else none
  | [] => none

def isLeap (year : Nat) : Bool := year % 4 = 0 && (year % 100 ≠ 0 || year % 400 = 0)

def daysIn (year month : Nat) : Nat :=
  if month = 2 then (if isLeap year then 29 else 28)
  else if [4, 6, 9, 11].contains month then 30
  else 31

def date (cs : List Char) : Option (List Char) := do
  let (year, cs) ← field 4 0 9999 cs
  let cs ← mark '-' cs
  let (month, cs) ← field 2 1 12 cs
  let cs ← mark '-' cs
  let (_, cs) ← field 2 1 (daysIn year month) cs
  some cs

def time (cs : List Char) : Option (List Char) := do
  let (_, cs) ← field 2 0 23 cs
  let cs ← mark ':' cs
  let (_, cs) ← field 2 0 59 cs
  let cs ← mark ':' cs
  let (_, cs) ← field 2 0 60 cs
  match cs with
  | '.' :: rest => some (if rest.head?.any Char.isDigit then rest.dropWhile Char.isDigit else cs)
  | _ => some cs

/-- What follows an offset from universal time, if there is one. -/
def offset (cs : List Char) : Option (List Char) :=
  match cs with
  | 'Z' :: cs | 'z' :: cs => some cs
  | '+' :: cs | '-' :: cs => do
    let (_, cs) ← field 2 0 23 cs
    let cs ← mark ':' cs
    let (_, cs) ← field 2 0 59 cs
    some cs
  | cs => some cs

/-- Two digits and a colon. -/
def looksLikeTime (cs : List Char) : Bool :=
  (cs.take 2).all Char.isDigit && (cs.drop 2).head? = some ':'

/-- Four digits and a hyphen. -/
def looksLikeDate (cs : List Char) : Bool :=
  (cs.take 4).all Char.isDigit && (cs.drop 4).head? = some '-'

/-- A date, a time or both, with an offset only after both. -/
def moment (cs : List Char) : Option (Toml × List Char) := do
  let rest ←
    if looksLikeDate cs then do
      let rest ← date cs
      match rest with
      | d :: after =>
        if (d = 'T' || d = 't' || d = ' ') && looksLikeTime after then do
          offset (← time after)
        else some rest
      | [] => some rest
    else time cs
  some (.moment (String.ofList (cs.take (cs.length - rest.length))), rest)

/-- A value that starts with a sign or a digit. -/
def numeric (cs : List Char) : Option (Toml × List Char) :=
  if looksLikeDate cs || looksLikeTime cs then moment cs else number cs

end SymbolAtlas.Toml.Reader
