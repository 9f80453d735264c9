import SymbolAtlas.Decimal.Bits

/-!
# The shortest decimal of a double

A finite double is `mantissa · 2 ^ exponent` and stands for every real that rounds to it.
`Shortest.ofBits` looks for a decimal in that interval on the grids of one, two, … digits; the
first grid with a point in the interval wins, and of two points the nearer, or the even one where
both are as near. `text` writes it, with an exponent if it is very large or very small.
-/

namespace SymbolAtlas.Decimal

/-- The magnitude `digits · 10 ^ scale`. -/
structure Scientific where
  digits : Nat
  scale : Int
  deriving DecidableEq, Repr

/-- A positive rational. -/
structure Ratio where
  num : Nat
  den : Nat

namespace Ratio

def ofPow (base m : Nat) (e : Int) : Ratio :=
  if e < 0 then ⟨m, base.pow e.natAbs⟩ else ⟨m * base.pow e.natAbs, 1⟩

def lt (a b : Ratio) : Bool := a.num * b.den < b.num * a.den

/-- The quotient by `10 ^ k`, rounded down. -/
def floorAt (a : Ratio) (k : Int) : Nat :=
  let power := Nat.pow 10 k.natAbs
  if k < 0 then a.num * power / a.den else a.num / (a.den * power)

/-- The distance to `b`. -/
def dist (a b : Ratio) : Ratio :=
  ⟨(a.num * b.den - b.num * a.den) + (b.num * a.den - a.num * b.den), a.den * b.den⟩

end Ratio

namespace Shortest

/-- The place of the leading digit: the last `e` of `places` with `10 ^ e ≤ a`. -/
def leading (a : Ratio) : Int :=
  ((List.range 660).map fun i : Nat => (320 : Int) - i).find? (fun e => !a.lt (.ofPow 10 1 e))
    |>.getD (-340)

/-- The part of a double's bits that says where it lies. -/
structure Parts where
  mantissa : Nat
  exponent : Int
  /-- The neighbour below is at half the usual distance. -/
  narrow : Bool

def parts (bits : UInt64) : Parts :=
  let field := exponentField bits
  let fraction := fractionField bits
  if field = 0 then ⟨fraction, -1074, false⟩
  else ⟨fraction + 0x10000000000000, (field : Int) - 1075, fraction = 0 && 1 < field⟩

/-- Whether the decimal rounds to the double. -/
def hits (p : Parts) (d : Scientific) : Bool :=
  let low := Ratio.ofPow 2 (4 * p.mantissa - if p.narrow then 1 else 2) (p.exponent - 2)
  let high := Ratio.ofPow 2 (4 * p.mantissa + 2) (p.exponent - 2)
  let x := Ratio.ofPow 10 d.digits d.scale
  if p.mantissa % 2 = 0 then !x.lt low && !high.lt x else low.lt x && x.lt high

/-- The nearest decimal with `n` digits that rounds to the double; a tie goes to the even one. -/
def onGrid (p : Parts) (n : Nat) : Option Scientific :=
  let v := Ratio.ofPow 2 p.mantissa p.exponent
  let k := leading v - (n : Int) + 1
  let below : Scientific := ⟨v.floorAt k, k⟩
  let above : Scientific := ⟨v.floorAt k + 1, k⟩
  match hits p below, hits p above with
  | true, true =>
    let down := v.dist (.ofPow 10 below.digits k)
    let up := v.dist (.ofPow 10 above.digits k)
    if down.lt up || (!up.lt down && below.digits % 2 = 0) then some below else some above
  | true, false => some below
  | false, true => some above
  | false, false => none

/-- The shortest decimal of a finite double's magnitude. -/
def ofBits (bits : UInt64) : Scientific :=
  let p := parts bits
  if p.mantissa = 0 then ⟨0, 0⟩
  else ((List.range 17).findSome? fun n => onGrid p (n + 1)).getD ⟨0, 0⟩

end Shortest

/-- Magnitudes from `0.00001` up to below `10000000000000000` are written without an exponent: their
point stands after these many digits, a negative number being that of zeros in front. -/
def isPlain (point : Int) : Bool := -5 < point && point ≤ 16

/-- The digits `ds` with the point after the first `point` of them, and a digit on either side. -/
def positional (ds : List Char) (point : Int) : List Char :=
  let whole := (ds ++ List.replicate (point.toNat - ds.length) '0').take point.toNat
  let fraction := List.replicate (-point).toNat '0' ++ ds.drop point.toNat
  (if whole.isEmpty then ['0'] else whole) ++ '.' :: if fraction.isEmpty then ['0'] else fraction

/-- The digits `ds` with the point after the first, and a signed exponent. -/
def exponential (ds : List Char) (exponent : Int) : List Char :=
  let rest := ds.drop 1
  ds.take 1 ++ (if rest.isEmpty then [] else '.' :: rest) ++
    'e' :: (if exponent < 0 then '-' else '+') :: (toString exponent.natAbs).toList

/-- The text of a magnitude; zeros at the end of its digits do not count. -/
def Scientific.text (d : Scientific) : String :=
  let all := (toString d.digits).toList
  let point := (all.length : Int) + d.scale
  let ds := (all.reverse.dropWhile (· = '0')).reverse
  String.ofList <|
    if ds.isEmpty then ['0', '.', '0']
    else if isPlain point then positional ds point
    else exponential ds (point - 1)

/-- The text of a double. -/
def text (bits : UInt64) : String :=
  let sign := if isNegative bits then "-" else ""
  if isFinite bits then sign ++ (Shortest.ofBits bits).text
  else if fractionField bits = 0 then sign ++ "inf"
  else "NaN"

end SymbolAtlas.Decimal
