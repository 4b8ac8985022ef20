/-!
Sets of characters that are tables of a standard. A table lists the code points at which
membership changes, so a run of members takes two numbers however long it is.
-/

set_option autoImplicit false

namespace Chip8Inspector.Text

/-- The bounds are in ascending order: the first member of a run, then the first character
behind it, and so on. -/
structure CharSet where
  bounds : Array Nat

def CharSet.contains (set : CharSet) (c : Char) : Bool :=
  (set.bounds.takeWhile (· ≤ c.toNat)).size % 2 == 1

end Chip8Inspector.Text
