/-!
# Totals of counts
-/

namespace SymbolAtlas

def total : List Nat → Nat := List.foldr Nat.add 0

@[simp] theorem total_nil : total [] = 0 := rfl

@[simp] theorem total_cons (n : Nat) (l : List Nat) : total (n :: l) = n + total l := rfl

end SymbolAtlas
