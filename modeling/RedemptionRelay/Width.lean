/-! # Widths

The records that the relay exchanges keep their numbers in 32, 64 or 128 bits.
A bound is the first number that no longer fits; with a sign, one bit less is
left for the size.
-/

namespace RedemptionRelay.Width

def bound32 : Nat := 0x100000000

def bound64 : Nat := 0x10000000000000000

def bound128 : Nat := 0x100000000000000000000000000000000

def signedBound64 : Nat := 0x8000000000000000

def max64 : Nat := 0xffffffffffffffff

end RedemptionRelay.Width
