/-!
# Integers of 64 bits

The limits of integers that are kept in 64 bits, with a sign or without one.
-/

namespace Pushdown

/-- The least signed integer of 64 bits. -/
def leastSigned : Int := -9223372036854775808

/-- The greatest signed integer of 64 bits. -/
def greatestSigned : Int := 9223372036854775807

/-- The greatest unsigned integer of 64 bits. -/
def greatestUnsigned : Nat := 18446744073709551615

/-- Whether an integer fits 64 bits, with or without a sign. -/
abbrev FitsWord (i : Int) : Prop := leastSigned ≤ i ∧ i ≤ greatestUnsigned

end Pushdown
