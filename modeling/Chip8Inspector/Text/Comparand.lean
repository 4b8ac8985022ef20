/-!
Change detection compares ordered sequences, and a value that is no sequence at all must count
as different instead of being an error. `Comparand.same` is that comparison.
-/

set_option autoImplicit false

namespace Chip8Inspector.Text

inductive Comparand (α : Type) where
  | sequence (items : List α)
  | scalar

/-- Equal length and equal items at every position. A scalar is the same as nothing. -/
def Comparand.same {α : Type} [DecidableEq α] : Comparand α → Comparand α → Bool
  | .sequence left, .sequence right => decide (left = right)
  | _, _ => false

end Chip8Inspector.Text
