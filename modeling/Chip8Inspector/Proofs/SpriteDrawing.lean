import Chip8Inspector.Proofs.DisplayPixels
import Chip8Inspector.Proofs.WalkerHistory

/-!
# Drawing turns over the pixels under a sprite

A sprite is less than 32 pixels high and eight pixels wide, so that around the edges of the display
no two of its pixels meet. So a pixel is turned over exactly if its distance from the corner of the
sprite, around the edges, leads to a set bit of a row.
-/

namespace Chip8Inspector

set_option autoImplicit false

namespace Pixel

/-- How far the pixel is to the right of a column, around the edge. -/
def rightOf (pixel : Pixel) (column : Nat) : Nat :=
  (pixel.x - (around column 0).x).val

/-- How far the pixel is below a row, around the edge. -/
def below (pixel : Pixel) (row : Nat) : Nat :=
  (pixel.y - (around 0 row).y).val

theorem around_eq_iff (pixel : Pixel) (left top : Nat) {right down : Nat} (narrow : right < 64)
    (low : down < 32) :
    around (left + right) (top + down) = pixel ↔
      pixel.rightOf left = right ∧ pixel.below top = down := by
  rcases pixel with ⟨⟨x, wide⟩, ⟨y, high⟩⟩
  simp only [around, rightOf, below, Pixel.mk.injEq, Fin.ext_iff, Fin.val_sub, Fin.val_ofNat]
  omega

end Pixel

/-- The pixels that one row of a sprite touches. -/
def rowPixels (left top : Nat) (row : UInt8 × Nat) : List Pixel :=
  ((List.range 8).filter (rowBit row.1)).map fun right => Pixel.around (left + right) (top + row.2)

theorem spritePixels_eq (left top : Nat) (rows : List UInt8) :
    spritePixels left top rows = rows.zipIdx.flatMap (rowPixels left top) :=
  rfl

theorem mem_rowPixels {left top down : Nat} (low : down < 32) (row : UInt8) (pixel : Pixel) :
    pixel ∈ rowPixels left top (row, down) ↔
      pixel.below top = down ∧ pixel.rightOf left < 8 ∧ rowBit row (pixel.rightOf left) = true := by
  unfold rowPixels
  simp only [List.mem_map, List.mem_filter, List.mem_range]
  constructor
  · rintro ⟨right, ⟨inRow, set⟩, here⟩
    obtain ⟨sameColumn, sameRow⟩ := (pixel.around_eq_iff left top (by omega) low).mp here
    exact ⟨sameRow, sameColumn ▸ inRow, sameColumn ▸ set⟩
  · rintro ⟨sameRow, inRow, set⟩
    exact ⟨_, ⟨inRow, set⟩, (pixel.around_eq_iff left top (by omega) low).mpr ⟨rfl, sameRow⟩⟩

theorem mem_spritePixels {rows : List UInt8} (low : rows.length ≤ 32) (left top : Nat)
    (pixel : Pixel) :
    pixel ∈ spritePixels left top rows ↔
      pixel.rightOf left < 8 ∧ ∃ row, rows[pixel.below top]? = some row ∧
        rowBit row (pixel.rightOf left) = true := by
  rw [spritePixels_eq, List.mem_flatMap]
  constructor
  · rintro ⟨⟨row, down⟩, member, touched⟩
    have known : rows[down]? = some row := List.mem_zipIdx_iff_getElem?.mp member
    have inside : down < rows.length := (List.getElem?_eq_some_iff.mp known).1
    obtain ⟨rfl, inRow, set⟩ := (mem_rowPixels (by omega) row pixel).mp touched
    exact ⟨inRow, row, known, set⟩
  · rintro ⟨inRow, row, known, set⟩
    have inside : pixel.below top < rows.length := (List.getElem?_eq_some_iff.mp known).1
    exact ⟨(row, pixel.below top), List.mem_zipIdx_iff_getElem?.mpr known,
      (mem_rowPixels (by omega) row pixel).mpr ⟨rfl, inRow, set⟩⟩

/-- No sprite touches a pixel twice. -/
theorem spritePixels_once {rows : List UInt8} (low : rows.length ≤ 32) (left top : Nat) :
    (spritePixels left top rows).Nodup := by
  rw [spritePixels_eq, List.nodup_flatMap]
  constructor
  · rintro ⟨row, down⟩ member
    apply List.Nodup.map_on _ (List.nodup_range.filter _)
    intro first inRow second alsoInRow same
    simp only [List.mem_filter, List.mem_range] at inRow alsoInRow
    have columns := congrArg (fun pixel => pixel.x.val) same
    simp only [Pixel.around, Fin.val_ofNat] at columns
    omega
  · rw [List.pairwise_iff_getElem]
    intro upper lower upperIn lowerIn apart pixel inUpper inLower
    rw [List.length_zipIdx] at upperIn lowerIn
    rw [List.getElem_zipIdx, mem_rowPixels (by omega)] at inUpper inLower
    omega

namespace Instruction

/-- The word that draws as many rows as asked for at the position in two registers. -/
def drawWord (x y : Register) (rows : Fin 16) : UInt16 :=
  UInt16.ofNat (0xd000 + 256 * x.val + 16 * y.val + rows.val)

theorem decode_drawWord (x y : Register) (rows : Fin 16) :
    decode (drawWord x y rows) = .draw x y rows := by
  have value : (drawWord x y rows).toNat = 0xd000 + 256 * x.val + 16 * y.val + rows.val := by
    rw [drawWord, UInt16.toNat_ofNat']
    exact Nat.mod_eq_of_lt (by omega)
  have kind : (drawWord x y rows).toNat / 4096 = 0xd := by omega
  have first : Fin.ofNat 16 ((drawWord x y rows).toNat / 256) = x := by
    apply Fin.ext
    rw [Fin.val_ofNat]
    omega
  have second : Fin.ofNat 16 ((drawWord x y rows).toNat / 16) = y := by
    apply Fin.ext
    rw [Fin.val_ofNat]
    omega
  have height : Fin.ofNat 16 ((drawWord x y rows).toNat % 16) = rows := by
    apply Fin.ext
    rw [Fin.val_ofNat]
    omega
  unfold decode
  simp only [kind, first, second, height]

end Instruction

namespace Walker

/-- The word that the next step carries out, once there is a program. -/
def upcoming? (walker : Walker) : Option UInt16 :=
  walker.programEnd.bind fun _ => walker.memory.word? walker.programCounter.toNat

theorem advance_upcoming {walker : Walker} {word : UInt16}
    (upcoming : walker.upcoming? = some word) :
    ∃ programEnd, walker.programEnd = some programEnd ∧
      walker.advance = .ok (walker.execute programEnd (Instruction.decode word)) := by
  obtain ⟨programEnd, known, read⟩ := Option.bind_eq_some_iff.mp upcoming
  refine ⟨programEnd, known, ?_⟩
  unfold advance
  rw [known]
  dsimp only
  rw [read]

theorem sprite_row (walker : Walker) {rows down : Nat} (inside : down < rows) :
    (walker.sprite rows)[down]? =
      some (walker.memory.byteAround (walker.indexRegister.toNat + down)) := by
  unfold sprite
  rw [List.getElem?_map, List.getElem?_range inside, Option.map_some]

theorem sprite_length (walker : Walker) (rows : Nat) : (walker.sprite rows).length = rows := by
  simp [sprite]

theorem mem_sprite (walker : Walker) (left top : Nat) (rows : Fin 16) (pixel : Pixel) :
    pixel ∈ spritePixels left top (walker.sprite rows.val) ↔
      pixel.rightOf left < 8 ∧ pixel.below top < rows.val ∧
        (walker.memory.byteAround
          (walker.indexRegister.toNat + pixel.below top)).toNat.testBit
            (7 - pixel.rightOf left) = true := by
  have low : (walker.sprite rows.val).length ≤ 32 := by
    rw [sprite_length]
    omega
  rw [mem_spritePixels low]
  constructor
  · rintro ⟨inRow, row, known, set⟩
    have inside : pixel.below top < rows.val := by
      rw [← walker.sprite_length rows.val]
      exact (List.getElem?_eq_some_iff.mp known).1
    rw [walker.sprite_row inside] at known
    cases known
    rw [rowBit_eq_testBit _ inRow] at set
    exact ⟨inRow, inside, set⟩
  · rintro ⟨inRow, inside, set⟩
    rw [← rowBit_eq_testBit _ inRow] at set
    exact ⟨inRow, _, walker.sprite_row inside, set⟩

theorem sprite_once (walker : Walker) (left top : Nat) (rows : Fin 16) :
    (spritePixels left top (walker.sprite rows.val)).Nodup := by
  apply spritePixels_once
  rw [sprite_length]
  omega

theorem register_set_flag {walker after : Walker} {byte : UInt8}
    (registers : after.registers = (walker.setRegister Register.flag byte).registers) :
    after.register Register.flag = byte ∧
      ∀ register, register ≠ Register.flag → after.register register = walker.register register := by
  unfold register
  rw [registers]
  constructor
  · exact Vector.getElem_set_self Register.flag.isLt
  · intro other away
    exact Vector.getElem_set_ne Register.flag.isLt other.isLt fun same => away (Fin.ext same.symm)

/-- The walker after a step that draws, in all that drawing has to do with. -/
theorem drawn_parts (walker : Walker) (programEnd : Nat) (x y : Register) (rows : Fin 16) :
    let pixels :=
      spritePixels (walker.register x).toNat (walker.register y).toNat (walker.sprite rows.val)
    let after := walker.execute programEnd (.draw x y rows)
    after.memory = (walker.memory.flipAll pixels).1 ∧
      after.registers =
        (walker.setRegister Register.flag
          (if (walker.memory.flipAll pixels).2 then 1 else 0)).registers ∧
      after.indexRegister = walker.indexRegister :=
  ⟨rfl, rfl, rfl⟩

/-- A step that draws, in any state: a pixel changes exactly if, around the edges, it lies within
the eight columns and the rows of the sprite whose corner the two registers give, under a set bit
of the byte that is as far behind the index register, around the end of memory. The flag register
tells whether a pixel that changed was lit. Position and sprite are those from before the step, and
nothing else is drawn on or written to. -/
theorem drawing_turns_pixels_over (walker : Walker) (x y : Register) (rows : Fin 16)
    (upcoming : walker.upcoming? = some (Instruction.drawWord x y rows)) :
    let left := (walker.register x).toNat
    let top := (walker.register y).toNat
    let start := walker.indexRegister.toNat
    ∃ after, Machine.advance walker = (.ok (), after) ∧
      let before? (pixel : Pixel) := glyphAt? (Machine.screen walker) pixel.y.val pixel.x.val
      let after? (pixel : Pixel) := glyphAt? (Machine.screen after) pixel.y.val pixel.x.val
      (∀ pixel : Pixel, after? pixel ≠ before? pixel ↔
        pixel.rightOf left < 8 ∧ pixel.below top < rows.val ∧
          walker.memory.bytes[(start + pixel.below top) % 4096].toNat.testBit
            (7 - pixel.rightOf left) = true) ∧
      (after.register Register.flag = 0 ∨ after.register Register.flag = 1) ∧
      (after.register Register.flag = 1 ↔
        ∃ pixel, after? pixel ≠ before? pixel ∧ before? pixel = some '◼') ∧
      (∀ register, register ≠ Register.flag → after.register register = walker.register register) ∧
      after.indexRegister = walker.indexRegister ∧
      after.memory.SameBelowDisplay walker.memory := by
  intro left top start
  obtain ⟨programEnd, -, stepped⟩ := advance_upcoming upcoming
  rw [Instruction.decode_drawWord] at stepped
  obtain ⟨memory, registers, index⟩ := walker.drawn_parts programEnd x y rows
  have once := walker.sprite_once left top rows
  refine ⟨_, advance_granted stepped, ?_⟩
  generalize walker.execute programEnd (.draw x y rows) = after at memory registers index
  have changes : ∀ pixel : Pixel, after.memory.lit pixel ≠ walker.memory.lit pixel ↔
      pixel ∈ spritePixels left top (walker.sprite rows.val) := by
    intro pixel
    rw [memory, Memory.lit_flipAll _ once]
    cases walker.memory.lit pixel <;> simp
  intro before? after?
  have differs : ∀ pixel : Pixel, after? pixel ≠ before? pixel ↔
      pixel ∈ spritePixels left top (walker.sprite rows.val) :=
    fun pixel => (walker.memory.screen_differs_iff after.memory pixel).trans (changes pixel)
  have lit : ∀ pixel : Pixel, before? pixel = some '◼' ↔ walker.memory.lit pixel = true :=
    walker.memory.screen_lit_iff
  obtain ⟨flag, others⟩ := register_set_flag registers
  rw [Memory.flipAll_collided _ once] at flag
  refine ⟨?pixels, ?flag, ?collision, others, index, ?frame⟩
  case pixels => exact fun pixel => (differs pixel).trans (walker.mem_sprite left top rows pixel)
  case flag =>
    rw [flag]
    split
    · exact .inr rfl
    · exact .inl rfl
  case collision =>
    have touched : after.register Register.flag = 1 ↔
        ∃ pixel ∈ spritePixels left top (walker.sprite rows.val),
          walker.memory.lit pixel = true := by
      rw [flag, ← List.any_eq_true]
      split <;> simp_all
    simp only [touched, differs, lit]
  case frame =>
    rw [memory]
    exact walker.memory.flipAll_below _

/-- Points to the first glyph of the font, and draws it in the corner. -/
def glyphProgram : Program := #[0xa0, 0x50, 0xd0, 0x15]

theorem font_glyph : (Memory.holding glyphProgram).byteAround 0x50 = 0xf0 := by
  show (Memory.holding glyphProgram).bytes.get (0x50 : Fin 4096) = 0xf0
  rw [Memory.holding, Memory.byte_loaded _ (by decide), if_neg (by decide), if_neg (by decide),
    Memory.initial, Memory.byte_overlay, if_pos (by decide)]
  rfl

/-- The walker that is about to draw the glyph. -/
theorem glyph_reached :
    let walker := Machine.replay fresh [.load glyphProgram, .advance]
    walker.memory = .holding glyphProgram ∧ walker.programEnd = some 0x204 ∧
      walker.programCounter = 0x202 ∧ walker.indexRegister = 0x50 ∧
      walker.registers = Vector.replicate 16 0 := by
  have fits : glyphProgram.size ≤ Memory.capacity := by decide
  have points : Instruction.decode (wordOfBytes glyphProgram[0] glyphProgram[1]) =
      .loadIndex 0x50 := by decide
  have loaded := load_granted (load_fits fresh_carries fits)
  have stepped := advance_granted
    (given_advance fits (by decide) (by decide) fresh.keys)
  rw [points] at stepped
  have reached : Machine.replay fresh [.load glyphProgram, .advance] =
      ((given glyphProgram).withKeys fresh.keys).execute
        (Memory.programStart + glyphProgram.size) (.loadIndex 0x50) := by
    show (Machine.advance (Machine.load fresh glyphProgram).2).2 = _
    rw [loaded, stepped]
  have counter : intoProgram (Memory.programStart + glyphProgram.size)
      (target (UInt16.ofNat Memory.programStart) (.loadIndex 0x50)) = 0x202 := by decide
  rw [reached]
  exact ⟨rfl, rfl, counter, rfl, rfl⟩

theorem glyph_corner_turned :
    let walker := Machine.replay fresh [.load glyphProgram, .advance]
    walker.upcoming? = some (Instruction.drawWord 0 1 5) ∧
      ∃ after, Machine.advance walker = (.ok (), after) ∧
        glyphAt? (Machine.screen after) 0 0 ≠ glyphAt? (Machine.screen walker) 0 0 := by
  intro walker
  obtain ⟨memory, programEnd, counter, index, registers⟩ := glyph_reached
  have upcoming : walker.upcoming? = some (Instruction.drawWord 0 1 5) := by
    have word : wordOfBytes glyphProgram[2] glyphProgram[3] = Instruction.drawWord 0 1 5 := by
      decide
    have fits : glyphProgram.size ≤ Memory.capacity := by decide
    have read := Memory.word_holding fits 2 (by decide)
    rw [upcoming?, programEnd, Option.bind_some, memory, counter, ← word]
    exact read
  obtain ⟨after, stepped, pixels, -⟩ := drawing_turns_pixels_over walker 0 1 5 upcoming
  refine ⟨upcoming, after, stepped, (pixels ⟨0, 0⟩).mpr ?_⟩
  have left : (walker.register 0).toNat = 0 := by
    rw [register, registers]
    rfl
  have top : (walker.register 1).toNat = 0 := by
    rw [register, registers]
    rfl
  have row : walker.memory.byteAround (walker.indexRegister.toNat + 0) = 0xf0 := by
    rw [memory, index]
    exact font_glyph
  show _ ∧ _ ∧ (walker.memory.byteAround _).toNat.testBit _ = true
  rw [left, top]
  refine ⟨by decide, by decide, ?_⟩
  show (walker.memory.byteAround (walker.indexRegister.toNat + 0)).toNat.testBit 7 = true
  rw [row]
  decide

end Walker

end Chip8Inspector
