/-!
# The fields of a double

A double is a sign bit, eleven bits of exponent and fifty-two bits of fraction.
-/

namespace SymbolAtlas.Decimal

def isNegative (bits : UInt64) : Bool := bits >>> 63 ≠ 0

def exponentField (bits : UInt64) : Nat := ((bits >>> 52) &&& 0x7FF).toNat

def fractionField (bits : UInt64) : Nat := (bits &&& 0xFFFFFFFFFFFFF).toNat

/-- Neither an infinity nor not-a-number. -/
def isFinite (bits : UInt64) : Bool := exponentField bits ≠ 0x7FF

end SymbolAtlas.Decimal
