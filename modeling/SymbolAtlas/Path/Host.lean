import SymbolAtlas.Path.Host.Label
import SymbolAtlas.Text.Percent
import SymbolAtlas.Text.Utf8

/-!
# Hosts

The host of a URL is a name, or an address of the internet protocol: four numbers with dots, or
eight in square brackets. A name is percent-decoded, and read as what its characters stand for.
-/

namespace SymbolAtlas

inductive Host where
  | name (cs : List Char)
  | address4
  | address6
  deriving DecidableEq, Repr

inductive HostError where
  | empty
  | badName
  | badCharacter
  | badAddress4
  | badAddress6
  deriving DecidableEq, Repr

def HostError.message : HostError → String
  | empty => "empty host"
  | badName => "invalid international domain name"
  | badCharacter => "invalid domain character"
  | badAddress4 => "invalid IPv4 address"
  | badAddress6 => "invalid IPv6 address"

namespace Host

/-! ## Numbers -/

def digitIn? (base : Nat) (c : Char) : Option Nat :=
  match Percent.hexVal? (UInt8.ofNat c.toNat) with
  | some d => if c.toNat < 128 && d.toNat < base then some d.toNat else none
  | none => none

def numeral? (base : Nat) (cs : List Char) : Option Nat :=
  cs.foldlM (fun n c => (digitIn? base c).map (n * base + ·)) 0

/-- The part of an address: hexadecimal after `0x`, octal after `0`, else decimal. -/
def part? : List Char → Option Nat
  | [] => none
  | '0' :: 'x' :: cs => numeral? 16 cs
  | '0' :: c :: cs => numeral? 8 (c :: cs)
  | cs => numeral? 10 cs

/-! ## Addresses of four numbers -/

/-- The parts of a name; a dot at its end does not count. -/
def parts (cs : List Char) : List (List Char) :=
  let ps := cs.splitOn '.'
  if 1 < ps.length && ps.getLast? = some [] then ps.dropLast else ps

/-- Such a name must be an address. -/
def endsInNumber (cs : List Char) : Bool :=
  match (parts cs).getLast? with
  | some p => (!p.isEmpty && p.all Char.isDigit) || (part? p).isSome
  | none => false

/-- At most four parts; all but the last are bytes, and the last is as large as fits. -/
def isAddress4 (cs : List Char) : Bool :=
  match (parts cs).mapM part? with
  | some ns =>
    ns.length ≤ 4 && ns.dropLast.all (· < 256) &&
      ns.getLast?.any (· < Nat.pow 256 (5 - ns.length))
  | none => false

/-! ## Addresses in brackets -/

def isByte (cs : List Char) : Bool :=
  !cs.isEmpty && (cs.length = 1 || cs.head? ≠ some '0') && (numeral? 10 cs).any (· < 256)

def isHexGroup (cs : List Char) : Bool :=
  !cs.isEmpty && cs.length ≤ 4 && (numeral? 16 cs).isSome

/-- Four bytes with dots. -/
def isDotted (cs : List Char) : Bool :=
  let ps := cs.splitOn '.'
  ps.length = 4 && ps.all isByte

/-- How many groups of sixteen bits are written; only the last two may be four bytes with dots. -/
def groups? (final : Bool) : List (List Char) → Option Nat
  | [] => some 0
  | [g] => if isHexGroup g then some 1 else if final && isDotted g then some 2 else none
  | g :: gs => if isHexGroup g then (groups? final gs).map (· + 1) else none

/-- The text before and after the first `::`. -/
def gap? : List Char → Option (List Char × List Char)
  | ':' :: ':' :: cs => some ([], cs)
  | c :: cs => (gap? cs).map fun (a, b) => (c :: a, b)
  | [] => none

def groupsIn? (final : Bool) (cs : List Char) : Option Nat :=
  if cs.isEmpty then some 0 else groups? final (cs.splitOn ':')

/-- Eight groups, or fewer with one gap. -/
def isAddress6 (cs : List Char) : Bool :=
  match gap? cs with
  | none => groupsIn? true cs = some 8
  | some (before, after) =>
    match groupsIn? false before, groupsIn? true after with
    | some m, some n => m + n ≤ 7
    | _, _ => false

/-! ## Names -/

/-- The name that a text stands for: percent-decoded, with the meaning of each character, and
composed. -/
def name? (text : List Char) : Option (List Char) := do
  let decoded := Text.lossy (Percent.decode (Text.utf8 (String.ofList text)))
  let cs := Text.compose (← decoded.toList.mapM meaning?).flatten
  if isName cs then some cs else none

/-- The address in square brackets. -/
def bracketed (text : List Char) : Except HostError Host :=
  if text.getLast? = some ']' && isAddress6 (text.drop 1).dropLast then .ok .address6
  else .error .badAddress6

/-- The host that a text names. -/
def parse (text : List Char) : Except HostError Host :=
  if text.head? = some '[' then bracketed text
  else
    match name? text with
    | none => .error .badName
    | some [] => .error .empty
    | some cs =>
      if endsInNumber cs then if isAddress4 cs then .ok .address4 else .error .badAddress4
      else .ok (.name cs)

/-- The host that a text names where names have no meaning of their own. -/
def parseVerbatim (text : List Char) : Except HostError Host :=
  if text.head? = some '[' then bracketed text
  else if text.any fun c => c = '\x00' || " #/:<>?@[\\]^|".contains c then .error .badCharacter
  else .ok (.name text)

end Host

/-- The host is this machine. -/
def Host.isLocal (h : Host) : Bool := h = .name "localhost".toList

end SymbolAtlas
