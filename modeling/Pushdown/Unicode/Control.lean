/-!
# Control characters

The control characters are those of ASCII, with the one at its end, and those of the block behind
it.
-/

namespace Pushdown

def isControl (c : Char) : Bool := c.toNat < 32 || (127 ≤ c.toNat && c.toNat < 160)

end Pushdown
