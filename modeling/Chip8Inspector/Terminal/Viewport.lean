/-!
The part of a terminal that a picture is drawn on. A picture has at most 65535 cells; of a
terminal with more, the picture takes a part of the same proportions.
-/

set_option autoImplicit false

namespace Chip8Inspector.Terminal

/-- A binary search from above: `bits` are left to decide, and the square root is at least
`lower`. -/
def rootFrom (square : Nat) : Nat → Nat → Nat
  | 0, lower => lower
  | bits + 1, lower =>
      let candidate := lower + 1 <<< bits
      rootFrom square bits (if candidate * candidate ≤ square then candidate else lower)

/-- The square root, rounded down. It has at most 16 bits, as sides of a picture do. -/
def root (square : Nat) : Nat :=
  rootFrom square 16 0

theorem rootFrom_le (square : Nat) {bits lower : Nat} (low : lower * lower ≤ square) :
    rootFrom square bits lower * rootFrom square bits lower ≤ square := by
  induction bits generalizing lower with
  | zero => exact low
  | succ bits ih =>
      rw [rootFrom]
      split
      · next fits => exact ih fits
      · exact ih low

theorem root_le (square : Nat) : root square * root square ≤ square :=
  rootFrom_le square (by simp)

structure Viewport where
  width : Nat
  height : Nat
  bounded : width * height ≤ 65535

namespace Viewport

/-- The squares of the sides are at most `most * width / height` and `most * height / width`, whose
product is the square of `most`. -/
theorem clipped_le (most : Nat) {width height : Nat} (wide : 0 < width) (high : 0 < height) :
    root (most * width / height) * root (most * height / width) ≤ most := by
  have across := Nat.le_trans (Nat.mul_le_mul_right height (root_le (most * width / height)))
    (Nat.div_mul_le_self _ _)
  have down := Nat.le_trans (Nat.mul_le_mul_right width (root_le (most * height / width)))
    (Nat.div_mul_le_self _ _)
  have both := Nat.mul_le_mul across down
  generalize root (most * width / height) = columns at both ⊢
  generalize root (most * height / width) = rows at both ⊢
  have squares : columns * rows * (columns * rows) ≤ most * most := by
    apply Nat.le_of_mul_le_mul_right _ (Nat.mul_pos wide high)
    calc columns * rows * (columns * rows) * (width * height)
        = columns * columns * height * (rows * rows * width) := by ac_rfl
      _ ≤ most * width * (most * height) := both
      _ = most * most * (width * height) := by ac_rfl
  exact Nat.mul_self_le_mul_self_iff.mp squares

def ofTerminal (width height : Nat) : Viewport :=
  if bounded : width * height ≤ 65535 then ⟨width, height, bounded⟩
  else
    have filled : 0 < width * height := Nat.lt_of_lt_of_le (by decide) (Nat.le_of_not_le bounded)
    { width := root (65535 * width / height)
      height := root (65535 * height / width)
      bounded := clipped_le _ (Nat.pos_of_mul_pos_right filled) (Nat.pos_of_mul_pos_left filled) }

example : (ofTerminal 256 256).width = 255 := by decide

end Viewport

end Chip8Inspector.Terminal
