import Chip8Inspector.Proofs.MemoryContents
import Mathlib.Data.List.Nodup
import Mathlib.Data.Nat.Bitwise

/-!
# Pixels one by one

The display is packed, eight pixels to a byte, and only ever changed by turning pixels over. Turning
one over changes no other, so that a list in which no pixel stands twice turns over exactly the
pixels of the list. The text of the display shows each pixel at its own row and column.
-/

namespace Chip8Inspector

set_option autoImplicit false

/-- The bit of a byte that a mask with one set bit picks, counted from the left. -/
theorem leftBit_toNat {bit : Nat} (inByte : bit < 8) :
    ((0x80 : UInt8) >>> UInt8.ofNat bit).toNat = 2 ^ (7 - bit) := by
  have all : ∀ bit < 8, ((0x80 : UInt8) >>> UInt8.ofNat bit).toNat = 2 ^ (7 - bit) := by decide
  exact all bit inByte

theorem rowBit_eq_testBit (row : UInt8) {bit : Nat} (inByte : bit < 8) :
    rowBit row bit = row.toNat.testBit (7 - bit) := by
  have masked : (row &&& (0x80 >>> UInt8.ofNat bit)).toNat =
      (row.toNat.testBit (7 - bit)).toNat * 2 ^ (7 - bit) := by
    rw [UInt8.toNat_and, leftBit_toNat inByte, Nat.and_two_pow]
  unfold rowBit
  rw [Bool.eq_iff_iff, bne_iff_ne, ne_eq, ← UInt8.toNat_inj, masked]
  cases row.toNat.testBit (7 - bit) <;> simp

namespace Pixel

/-- Where the pixel is in its byte, counted from the right. -/
def bit (pixel : Pixel) : Nat :=
  7 - pixel.x.val % 8

theorem column_in_byte (pixel : Pixel) : pixel.x.val % 8 < 8 :=
  Nat.mod_lt _ (by decide)

theorem mask_toNat (pixel : Pixel) : pixel.mask.toNat = 2 ^ pixel.bit :=
  leftBit_toNat pixel.column_in_byte

/-- A pixel is told by its byte and its place in it. -/
theorem eq_of_place {left right : Pixel} (address : left.address = right.address)
    (bit : left.bit = right.bit) : left = right := by
  rcases left with ⟨⟨leftX, leftWide⟩, ⟨leftY, leftHigh⟩⟩
  rcases right with ⟨⟨rightX, rightWide⟩, ⟨rightY, rightHigh⟩⟩
  simp only [Pixel.address, Fin.mk.injEq] at address
  simp only [Pixel.bit] at bit
  simp only [Pixel.mk.injEq, Fin.mk.injEq]
  omega

end Pixel

namespace Memory

theorem lit_eq_testBit (memory : Memory) (pixel : Pixel) :
    memory.lit pixel = (memory.bytes.get pixel.address).toNat.testBit pixel.bit :=
  rowBit_eq_testBit _ pixel.column_in_byte

theorem byte_flip_self (memory : Memory) (pixel : Pixel) :
    (memory.flip pixel).bytes.get pixel.address =
      memory.bytes.get pixel.address ^^^ pixel.mask := by
  simp only [flip, Fin.getElem_fin]
  exact Vector.getElem_set_self _

theorem lit_flip (memory : Memory) (pixel other : Pixel) :
    (memory.flip pixel).lit other = (memory.lit other ^^ decide (other = pixel)) := by
  rw [lit_eq_testBit, lit_eq_testBit]
  by_cases sameByte : other.address = pixel.address
  · have samePixel : pixel.bit = other.bit ↔ other = pixel :=
      ⟨fun bit => Pixel.eq_of_place sameByte bit.symm, fun same => same ▸ rfl⟩
    rw [sameByte, byte_flip_self, UInt8.toNat_xor, Nat.testBit_xor, Pixel.mask_toNat,
      Nat.testBit_two_pow]
    simp only [samePixel]
  · have away : other ≠ pixel := fun same => sameByte (congrArg Pixel.address same)
    rw [byte_flip sameByte, decide_eq_false away, Bool.xor_false]

/-- Pixels that stand once in a list are turned over once, and no other is. -/
theorem lit_flipAll (memory : Memory) {pixels : List Pixel} (once : pixels.Nodup)
    (other : Pixel) :
    (memory.flipAll pixels).1.lit other = (memory.lit other ^^ decide (other ∈ pixels)) := by
  induction pixels generalizing memory with
  | nil => simp [flipAll]
  | cons pixel rest ih =>
      obtain ⟨absent, restOnce⟩ := List.nodup_cons.mp once
      show ((memory.flip pixel).flipAll rest).1.lit other = _
      rw [ih (memory.flip pixel) restOnce, lit_flip]
      by_cases here : other = pixel
      · simp [here, absent]
      · simp [here]

/-- No pixel of the list has been turned before its own turn, so that each is looked at as it was
at first. -/
theorem flipAll_collided (memory : Memory) {pixels : List Pixel} (once : pixels.Nodup) :
    (memory.flipAll pixels).2 = pixels.any memory.lit := by
  induction pixels generalizing memory with
  | nil => rfl
  | cons pixel rest ih =>
      obtain ⟨absent, restOnce⟩ := List.nodup_cons.mp once
      have untouched : ∀ other ∈ rest, (memory.flip pixel).lit other = memory.lit other := by
        intro other member
        have away : other ≠ pixel := fun same => absent (same ▸ member)
        rw [lit_flip, decide_eq_false away, Bool.xor_false]
      show (memory.lit pixel || ((memory.flip pixel).flipAll rest).2) = _
      rw [ih (memory.flip pixel) restOnce, List.any_cons]
      congr 1
      rw [Bool.eq_iff_iff, List.any_eq_true, List.any_eq_true]
      constructor
      · rintro ⟨other, member, lit⟩
        exact ⟨other, member, (untouched other member) ▸ lit⟩
      · rintro ⟨other, member, lit⟩
        exact ⟨other, member, (untouched other member).symm ▸ lit⟩

end Memory

/-- The character at a row and a column of a text. -/
def glyphAt? (text : String) (row column : Nat) : Option Char :=
  ((text.toList.splitOn '\n')[row]?).bind fun letters => letters[column]?

theorem splitOn_lines {lines : List (List Char)} (whole : ∀ line ∈ lines, '\n' ∉ line) :
    (lines.flatMap fun line => line ++ ['\n']).splitOn '\n' = lines ++ [[]] := by
  induction lines with
  | nil => exact List.splitOn_nil _
  | cons line rest ih =>
      obtain ⟨first, later⟩ := List.forall_mem_cons.mp whole
      have letters : ∀ c ∈ line, (c == '\n') = false := by
        intro c member
        exact beq_false_of_ne fun same => first (same ▸ member)
      rw [List.flatMap_cons, List.append_assoc, List.singleton_append, List.cons_append, ← ih later]
      exact List.splitOnP_append_cons_of_forall_mem letters '\n' rfl _

namespace Memory

def glyph (memory : Memory) (pixel : Pixel) : Char :=
  if memory.lit pixel then '◼' else ' '

def screenRow (memory : Memory) (y : Fin 32) : List Char :=
  (List.finRange 64).map fun x => memory.glyph ⟨x, y⟩

theorem screenRow_unbroken (memory : Memory) (y : Fin 32) : '\n' ∉ memory.screenRow y := by
  intro member
  obtain ⟨x, -, glyph⟩ := List.mem_map.mp member
  unfold Memory.glyph at glyph
  split at glyph <;> exact absurd glyph (by decide)

theorem screen_glyph (memory : Memory) (pixel : Pixel) :
    glyphAt? memory.screen pixel.y.val pixel.x.val = some (memory.glyph pixel) := by
  have rows : memory.screen.toList =
      ((List.finRange 32).map memory.screenRow).flatMap fun line => line ++ ['\n'] := by
    rw [List.flatMap_map]
    exact String.toList_ofList
  have whole : ∀ line ∈ (List.finRange 32).map memory.screenRow, '\n' ∉ line := by
    intro line member
    obtain ⟨y, -, rfl⟩ := List.mem_map.mp member
    exact memory.screenRow_unbroken y
  have inRows : pixel.y.val < ((List.finRange 32).map memory.screenRow).length := by simp
  unfold glyphAt?
  rw [rows, splitOn_lines whole, List.getElem?_append_left inRows, List.getElem?_eq_getElem inRows,
    Option.bind_some]
  simp [screenRow]

/-- What two displays show at a pixel differs exactly if the pixel does. -/
theorem screen_differs_iff (before after : Memory) (pixel : Pixel) :
    glyphAt? after.screen pixel.y.val pixel.x.val ≠ glyphAt? before.screen pixel.y.val pixel.x.val ↔
      after.lit pixel ≠ before.lit pixel := by
  rw [screen_glyph, screen_glyph, ne_eq, Option.some.injEq]
  unfold glyph
  cases after.lit pixel <;> cases before.lit pixel <;> decide

theorem screen_lit_iff (memory : Memory) (pixel : Pixel) :
    glyphAt? memory.screen pixel.y.val pixel.x.val = some '◼' ↔ memory.lit pixel = true := by
  rw [screen_glyph, Option.some.injEq]
  unfold glyph
  cases memory.lit pixel <;> decide

end Memory

end Chip8Inspector
