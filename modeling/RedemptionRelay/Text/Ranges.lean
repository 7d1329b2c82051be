/-! # Ranges of characters

A class of characters is given by the first and the last codes of its ranges.
-/

namespace RedemptionRelay.Ranges

def contain (ranges : List (Nat × Nat)) (c : Char) : Bool :=
  ranges.any fun (first, last) => first ≤ c.toNat && c.toNat ≤ last

end RedemptionRelay.Ranges
