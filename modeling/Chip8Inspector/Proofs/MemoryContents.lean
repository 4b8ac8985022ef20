import Chip8Inspector.Machine.Pixel

/-!
# What each byte of memory holds

Every operation on memory is described by the bytes that it leaves behind. Of the two operations
that a running machine has, clearing the display and turning pixels over, neither reaches below
the display page, and loading a program writes all of the program area and the display page. So
what memory holds below the display page is told by the program that was loaded last.
-/

namespace Chip8Inspector

set_option autoImplicit false

namespace Memory

theorem byte_overlay (memory : Memory) (start : Nat) (data : Array UInt8) (address : Fin 4096) :
    (memory.overlay start data).bytes.get address =
      if start ≤ address.val then (data[address.val - start]?).getD (memory.bytes.get address)
      else memory.bytes.get address :=
  Vector.getElem_ofFn address.isLt

theorem byte_blanket (memory : Memory) (start stop : Nat) (byte : UInt8) (address : Fin 4096) :
    (memory.blanket start stop byte).bytes.get address =
      if start ≤ address.val ∧ address.val < stop then byte else memory.bytes.get address :=
  Vector.getElem_ofFn address.isLt

theorem byte_flip {memory : Memory} {pixel : Pixel} {address : Fin 4096}
    (away : address ≠ pixel.address) :
    (memory.flip pixel).bytes.get address = memory.bytes.get address := by
  have apart : pixel.address.val ≠ address.val := fun same => away (Fin.ext same.symm)
  simp only [flip, Fin.getElem_fin]
  exact Vector.getElem_set_ne _ _ apart

theorem ext_bytes {left right : Memory}
    (same : ∀ address : Fin 4096, left.bytes.get address = right.bytes.get address) :
    left = right := by
  cases left
  cases right
  congr 1
  exact Vector.ext fun address inside => same ⟨address, inside⟩

/-- The bytes below the display page are the same. -/
def SameBelowDisplay (left right : Memory) : Prop :=
  ∀ address : Fin 4096, address.val < displayStart →
    left.bytes.get address = right.bytes.get address

theorem SameBelowDisplay.trans {first second third : Memory}
    (left : first.SameBelowDisplay second) (right : second.SameBelowDisplay third) :
    first.SameBelowDisplay third :=
  fun address below => (left address below).trans (right address below)

theorem clearDisplay_below (memory : Memory) : memory.clearDisplay.SameBelowDisplay memory := by
  intro address below
  unfold clearDisplay
  rw [byte_blanket]
  exact if_neg fun inside => absurd below (Nat.not_lt.mpr inside.1)

theorem flip_below (memory : Memory) (pixel : Pixel) :
    (memory.flip pixel).SameBelowDisplay memory := by
  intro address below
  apply byte_flip
  intro same
  have onPage : displayStart ≤ pixel.address.val := Nat.le_add_right _ _
  omega

theorem flipAll_below (memory : Memory) (pixels : List Pixel) :
    (memory.flipAll pixels).1.SameBelowDisplay memory := by
  induction pixels generalizing memory with
  | nil => exact fun _ _ => rfl
  | cons pixel rest ih => exact (ih (memory.flip pixel)).trans (flip_below memory pixel)

/-- New memory with a program in it. -/
def holding (program : Program) : Memory :=
  ((initial.blanket programStart stackStart 0).overlay programStart program).clearDisplay

/-- A program has its place, zeros fill the rest of the program area and the display page, and
no other byte is written. -/
theorem byte_loaded (memory : Memory) {program : Program} (fits : program.size ≤ capacity)
    (address : Fin 4096) :
    (((memory.blanket programStart stackStart 0).overlay programStart
      program).clearDisplay).bytes.get address =
      if displayStart ≤ address.val then 0
      else if programStart ≤ address.val ∧ address.val < stackStart then
        (program[address.val - programStart]?).getD 0
      else memory.bytes.get address := by
  have inside := address.isLt
  unfold clearDisplay
  rw [byte_blanket, byte_overlay, byte_blanket]
  by_cases page : displayStart ≤ address.val
  · rw [if_pos ⟨page, inside⟩, if_pos page]
  · rw [if_neg fun both => page both.1, if_neg page]
    by_cases area : programStart ≤ address.val ∧ address.val < stackStart
    · rw [if_pos area.1, if_pos area, if_pos area]
    · rw [if_neg area, if_neg area]
      by_cases behind : programStart ≤ address.val
      · have past : program.size ≤ address.val - programStart := by
          have beyond : stackStart ≤ address.val := Nat.not_lt.mp fun below => area ⟨behind, below⟩
          have room : capacity = stackStart - programStart := rfl
          omega
        rw [if_pos behind, Array.getElem?_eq_none past, Option.getD_none]
      · rw [if_neg behind]

theorem byte_initial_area (address : Fin 4096) (low : programStart ≤ address.val) :
    initial.bytes.get address = 0 := by
  unfold initial
  rw [byte_overlay]
  have zero : (Vector.replicate 4096 (0 : UInt8)).get address = 0 :=
    Vector.getElem_replicate address.isLt
  have behindFont : font.size ≤ address.val - fontStart := by
    have size : font.size = 80 := rfl
    have start : programStart = 0x200 := rfl
    have at50 : fontStart = 0x050 := rfl
    omega
  split
  · rw [Array.getElem?_eq_none behindFont, Option.getD_none]
    exact zero
  · exact zero

/-- Memory without a program is memory with the program of no bytes. -/
theorem holding_nothing : holding #[] = initial := by
  apply ext_bytes
  intro address
  unfold holding
  rw [byte_loaded initial (Nat.zero_le _)]
  split
  · next page =>
      have low : programStart ≤ address.val := Nat.le_trans (by decide) page
      exact (byte_initial_area address low).symm
  · split
    · next area => exact (byte_initial_area address area.1).symm
    · rfl

theorem byte_area {memory : Memory} {program : Program}
    (below : memory.SameBelowDisplay (holding program)) (fits : program.size ≤ capacity)
    {address : Fin 4096} (low : programStart ≤ address.val) (high : address.val < stackStart) :
    memory.bytes.get address = (program[address.val - programStart]?).getD 0 := by
  have offPage : address.val < displayStart := Nat.lt_trans high (by decide)
  rw [below address offPage]
  unfold holding
  rw [byte_loaded initial fits, if_neg (Nat.not_le.mpr offPage), if_pos ⟨low, high⟩]

/-- A program is where programs start, byte by byte. -/
theorem byte_holding {program : Program} (fits : program.size ≤ capacity) (index : Nat)
    (inside : index < program.size) (address : Fin 4096)
    (at_index : address.val = programStart + index) :
    (holding program).bytes.get address = program[index] := by
  have room : stackStart = programStart + capacity := rfl
  have page : stackStart < displayStart := by decide
  unfold holding
  rw [byte_loaded initial fits, if_neg (by omega), if_pos (by omega), at_index,
    Nat.add_sub_cancel_left, Array.getElem?_eq_getElem inside, Option.getD_some]

theorem word_holding {program : Program} (fits : program.size ≤ capacity) (index : Nat)
    (inside : index + 1 < program.size) :
    (holding program).word? (programStart + index) =
      some (wordOfBytes program[index] program[index + 1]) := by
  have room : programStart + capacity < 4096 := by decide
  have whole : programStart + index + 1 < 4096 := by omega
  have high : (holding program).bytes[programStart + index] = program[index] :=
    byte_holding fits index (Nat.lt_of_succ_lt inside) ⟨_, Nat.lt_of_succ_lt whole⟩ rfl
  have low : (holding program).bytes[programStart + index + 1] = program[index + 1] :=
    byte_holding fits (index + 1) inside ⟨_, whole⟩ rfl
  rw [word?, pair?, dif_pos whole, Option.map_some, high, low]

/-- What was in memory before a program does not matter afterwards, as long as the bytes around
the program area are those of new memory. -/
theorem load_fits {memory : Memory} {earlier program : Program}
    (carries : memory.SameBelowDisplay (holding earlier)) (known : earlier.size ≤ capacity)
    (fits : program.size ≤ capacity) : memory.load program = .ok (holding program) := by
  unfold load
  rw [if_neg (Nat.not_lt.mpr fits)]
  apply congrArg Except.ok
  apply ext_bytes
  intro address
  unfold holding
  rw [byte_loaded memory fits, byte_loaded initial fits]
  split
  · rfl
  · next below =>
      split
      · rfl
      · next outside =>
          rw [carries address (Nat.lt_of_not_le below)]
          unfold holding
          rw [byte_loaded initial known, if_neg below, if_neg outside]

theorem load_too_large {memory : Memory} {program : Program} (large : capacity < program.size) :
    memory.load program = .error (.programTooLarge program.size capacity) :=
  if_pos large

end Memory

end Chip8Inspector
