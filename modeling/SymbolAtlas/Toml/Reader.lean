import SymbolAtlas.Toml.Moment

/-!
# Reading TOML documents

A document is a list of lines that set keys and headers that open tables. Tables are gathered as
`Item`s, which remember how they came about: a table named by a header is closed to further
headers and to dotted keys, one that dotted keys made is open to dotted keys only, and one that was
passed on the way to another is open to both a header and tables below it.
-/

namespace SymbolAtlas.Toml

namespace Reader

/-! ## Tables under construction -/

inductive Item where
  | value (v : Toml)
  /-- `opened` by a header, or made by `dotted` keys. -/
  | table (opened dotted : Bool) (entries : List (String × Item))
  | tables (list : List (List (String × Item)))
  deriving Inhabited

abbrev Entries := List (String × Item)

mutual

def Item.toToml : Item → Toml
  | .value v => v
  | .table _ _ es => .table (entriesToml es)
  | .tables ts => .array (tablesToml ts)

def entriesToml : List (String × Item) → List (String × Toml)
  | [] => []
  | (k, i) :: es => (k, Item.toToml i) :: entriesToml es

def tablesToml : List (List (String × Item)) → List Toml
  | [] => []
  | es :: ts => .table (entriesToml es) :: tablesToml ts

end

def replace (k : String) (i : Item) : Entries → Entries
  | [] => [(k, i)]
  | e :: es => if e.1 = k then (k, i) :: es else e :: replace k i es

/-- Change the table at the end of a path, making the tables that are missing on the way. `change`
is told whether the table was made by dotted keys. -/
def update (dotted : Bool) (change : Bool → Entries → Option Entries) :
    Bool → List String → Entries → Option Entries
  | isDotted, [], es => change isDotted es
  | _, k :: ks, es =>
    match es.lookup k with
    | none => (update dotted change dotted ks []).map fun sub => es ++ [(k, .table false dotted sub)]
    | some (.value _) => none
    | some (.table opened d sub) =>
      if dotted && opened then none
      else (update dotted change d ks sub).map fun sub => replace k (.table opened d sub) es
    | some (.tables ts) =>
      (update dotted change false ks (ts.getLast?.getD [])).map fun sub =>
        replace k (.tables (ts.dropLast ++ [sub])) es

/-- Set a key of the table at a dotted path. -/
def setKey (path : List String) (v : Toml) (isDotted : Bool) (es : Entries) : Option Entries :=
  let key := path.getLast?.getD ""
  update true
    (fun isDotted es =>
      if isDotted = path.dropLast.isEmpty || (es.lookup key).isSome then none
      else some (es ++ [(key, .value v)]))
    isDotted path.dropLast es

/-- Set a key below the table that a header opened. -/
def setUnder (header path : List String) (v : Toml) (es : Entries) : Option Entries :=
  update false (setKey path v) false header es

/-- Open the table a header names; one that was passed before on the way to another goes last. -/
def openTable (path : List String) (es : Entries) : Option Entries :=
  let key := path.getLast?.getD ""
  update false
    (fun _ es =>
      match es.lookup key with
      | none => some (es ++ [(key, .table true false [])])
      | some (.table false false sub) =>
        some (es.filter (·.1 ≠ key) ++ [(key, .table true false sub)])
      | some _ => none)
    false path.dropLast es

/-- Open one more table of the array a header names. -/
def openElement (path : List String) (es : Entries) : Option Entries :=
  let key := path.getLast?.getD ""
  update false
    (fun _ es =>
      match es.lookup key with
      | none => some (es ++ [(key, .tables [[]])])
      | some (.tables ts) => some (replace key (.tables (ts ++ [[]])) es)
      | some _ => none)
    false path.dropLast es

/-! ## Keys and values -/

/-- Arrays and inline tables nest at most this deep. -/
def maxDepth : Nat := 79

def isBare (c : Char) : Bool := c.isAlphanum || c = '-' || c = '_'

def simpleKey (cs : List Char) : Option (String × List Char) :=
  match cs with
  | '"' :: cs => basic (cs.length + 1) [] cs
  | '\'' :: cs => literal cs
  | cs =>
    let name := cs.takeWhile isBare
    if name.isEmpty then none else some (String.ofList name, cs.drop name.length)

/-- A key of several names with dots between them, and the blanks around it. -/
def dottedKey : Nat → List Char → Option (List String × List Char)
  | 0, _ => none
  | fuel + 1, cs => do
    let (name, cs) ← simpleKey (skipSpace cs)
    match skipSpace cs with
    | '.' :: cs =>
      let (names, cs) ← dottedKey fuel cs
      some (name :: names, cs)
    | cs => some ([name], cs)

/-- A key of at most as many names as tables may nest. -/
def key (cs : List Char) : Option (List String × List Char) := dottedKey maxDepth cs

/-- Blanks, comments and line ends between the values of an array. -/
def skipVoid : Nat → List Char → List Char
  | 0, cs => cs
  | fuel + 1, cs =>
    match skipSpace cs with
    | '#' :: cs => skipVoid fuel (cs.dropWhile isPrintable)
    | cs =>
      match newline? cs with
      | some cs => skipVoid fuel cs
      | none => cs

def keyword (word : String) (v : Toml) (cs : List Char) : Option (Toml × List Char) :=
  if word.toList.isPrefixOf cs then some (v, cs.drop word.length) else none

mutual

def value : Nat → Nat → List Char → Option (Toml × List Char)
  | 0, _, _ => none
  | fuel + 1, room, cs =>
    match cs with
    | [] => none
    | c :: rest =>
      if c = '"' || c = '\'' then (string cs).map fun (s, cs) => (.text s, cs)
      else if c = '[' then
        if room = 0 then none
        else (array fuel (room - 1) rest).map fun (vs, cs) => (.array vs, cs)
      else if c = '\x7b' then
        if room = 0 then none
        else
          match skipSpace rest with
          | '\x7d' :: cs => some (.table [], cs)
          | cs =>
            (inlineTable fuel (room - 1) [] cs).map fun (es, cs) => (.table (entriesToml es), cs)
      else if c = 't' then keyword "true" (.bool true) cs
      else if c = 'f' then keyword "false" (.bool false) cs
      else numeric cs

/-- The values of an array, a comma allowed after the last, and its closing bracket. -/
def array : Nat → Nat → List Char → Option (List Toml × List Char)
  | 0, _, _ => none
  | fuel + 1, room, cs =>
    match skipVoid fuel cs with
    | ']' :: cs => some ([], cs)
    | cs => do
      let (v, cs) ← value fuel room cs
      match skipVoid fuel cs with
      | ',' :: cs =>
        let (vs, cs) ← array fuel room cs
        some (v :: vs, cs)
      | ']' :: cs => some ([v], cs)
      | _ => none

/-- The keys of an inline table after those in `es`, and its closing brace. -/
def inlineTable : Nat → Nat → Entries → List Char → Option (Entries × List Char)
  | 0, _, _, _ => none
  | fuel + 1, room, es, cs => do
    let (path, cs) ← key cs
    match cs with
    | '=' :: cs =>
      let (v, cs) ← value fuel room (skipSpace cs)
      let es ← setKey path v false es
      match skipSpace cs with
      | ',' :: cs => inlineTable fuel room es cs
      | '\x7d' :: cs => some (es, cs)
      | _ => none
    | _ => none

end

/-! ## Documents -/

/-- The rest of a line that holds nothing more than blanks and a comment. -/
def lineEnd (cs : List Char) : Option (List Char) :=
  let cs := skipSpace cs
  let cs :=
    match cs with
    | '#' :: cs => cs.dropWhile isPrintable
    | cs => cs
  if cs.isEmpty then some [] else newline? cs

/-- A header after its opening bracket. -/
def header (es : Entries) (cs : List Char) : Option ((List String × Entries) × List Char) :=
  match cs with
  | '[' :: cs => do
    let (path, cs) ← key cs
    match cs with
    | ']' :: ']' :: cs => some ((path, ← openElement path es), ← lineEnd cs)
    | _ => none
  | cs => do
    let (path, cs) ← key cs
    match cs with
    | ']' :: cs => some ((path, ← openTable path es), ← lineEnd cs)
    | _ => none

/-- The lines of a document below the header at hand. -/
def document : Nat → List String → Entries → List Char → Option Entries
  | 0, _, _, _ => none
  | fuel + 1, under, es, cs =>
    match skipSpace cs with
    | [] => some es
    | '[' :: cs => do
      let ((path, es), cs) ← header es cs
      document fuel path es cs
    | cs =>
      match lineEnd cs with
      | some cs => document fuel under es cs
      | none => do
        let (path, cs) ← key cs
        match cs with
        | '=' :: cs =>
          let (v, cs) ← value fuel maxDepth (skipSpace cs)
          document fuel under (← setUnder under path v es) (← lineEnd cs)
        | _ => none

end Reader

open Reader in
/-- The table a text denotes, if it is TOML. A byte order mark in front does not count. -/
def parse? (s : String) : Option Toml :=
  let cs := s.toList
  let cs := if cs.head? = some '\uFEFF' then cs.drop 1 else cs
  (document (2 * cs.length + 2) [] [] cs).bind fun es => reveal? (.table (entriesToml es))

end SymbolAtlas.Toml
