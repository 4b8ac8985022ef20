/-!
One program of a catalog.
-/

set_option autoImplicit false

namespace Chip8Inspector

structure Entry where
  title : String
  /-- The program's file, seen from the directory of the catalog. -/
  file : String
  deriving DecidableEq

end Chip8Inspector
