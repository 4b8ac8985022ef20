import Chip8Inspector.Proofs.PanelCells
import Chip8Inspector.Proofs.PlainTypesetter
import Chip8Inspector.Scene

/-!
# What the catalog panel shows of the cursor

The entries are listed from the first one down, in the rows that the display leaves to the catalog.
So the entry under the cursor is seen, and is seen reversed, exactly if all entries up to it have
room in the panel: the list does not follow the cursor.
-/

namespace Chip8Inspector

set_option autoImplicit false

namespace Scene

open Terminal

theorem textLines_ne_nil {text : List Char} (written : text ≠ []) : textLines text ≠ [] := by
  have joined : ['\n'].intercalate (text.splitOn '\n') = text := List.intercalate_splitOn _
  unfold textLines
  cases pieces : text.splitOn '\n' with
  | nil =>
      rw [pieces] at joined
      exact absurd joined.symm written
  | cons first rest =>
      cases rest with
      | nil =>
          rw [pieces] at joined
          have whole : first = text := by simpa using joined
          simp [whole, written]
      | cons second later => simp

theorem textLines_of_oneLine {text : List Char} (oneLine : '\n' ∉ text) (written : text ≠ []) :
    textLines text = [text] := by
  unfold textLines
  rw [List.splitOn_eq_singleton oneLine]
  simp [written]

variable {W : Type} (scene : Scene W)

theorem catalogItem_lines_ne_nil (index : Nat) (entry : Entry) :
    (scene.catalogItem index entry).lines ≠ [] := by
  simp only [catalogItem, plainLines, entryText, ne_eq, List.map_eq_nil_iff]
  apply textLines_ne_nil
  split <;> simp

theorem catalogItem_oneLine (index : Nat) {entry : Entry} (oneLine : '\n' ∉ entry.title.toList) :
    (scene.catalogItem index entry).lines = [Line.of (scene.entryText index entry) {}] := by
  simp only [catalogItem, plainLines]
  rw [textLines_of_oneLine, List.map_singleton, String.ofList_toList]
  · unfold entryText
    split <;> simpa using oneLine
  · unfold entryText
    split <;> simp

theorem text_of_mem_lines {index : Nat} {entry : Entry} {line : Line}
    (member : line ∈ (scene.catalogItem index entry).lines) : ∃ text, line = Line.of text {} := by
  obtain ⟨text, -, rfl⟩ := List.mem_map.mp member
  exact ⟨String.ofList text, rfl⟩

/-- The rows that the entries before an index take. -/
def rowsAbove (index : Nat) : Nat :=
  Item.totalHeight (scene.catalogItems.take index)

theorem mem_catalogItems {item : Item} (member : item ∈ scene.catalogItems) :
    ∃ index entry, scene.entries[index]? = some entry ∧ item = scene.catalogItem index entry := by
  obtain ⟨index, bound, rfl⟩ := List.mem_mapIdx.mp member
  exact ⟨index, _, List.getElem?_eq_getElem bound, rfl⟩

theorem le_rowsAbove {index : Nat} (bound : index ≤ scene.entries.length) :
    index ≤ scene.rowsAbove index := by
  have counted : (scene.catalogItems.take index).length ≤ scene.rowsAbove index := by
    apply Item.length_le_totalHeight
    intro item member
    obtain ⟨position, entry, -, rfl⟩ := scene.mem_catalogItems (List.mem_of_mem_take member)
    exact scene.catalogItem_lines_ne_nil position entry
  rw [List.length_take, catalogItems, List.length_mapIdx] at counted
  omega

theorem rowsAbove_of_oneLine (oneLine : ∀ entry ∈ scene.entries, '\n' ∉ entry.title.toList)
    {index : Nat} (bound : index ≤ scene.entries.length) : scene.rowsAbove index = index := by
  rw [rowsAbove, Item.totalHeight_of_oneLine, List.length_take, catalogItems, List.length_mapIdx]
  · omega
  · intro item member
    obtain ⟨position, entry, listed, rfl⟩ := scene.mem_catalogItems (List.mem_of_mem_take member)
    rw [scene.catalogItem_oneLine position (oneLine entry (List.mem_of_getElem? listed))]
    rfl

theorem drawPanel_outside (setter : Typesetter) (canvas : Canvas) {area : Area} (title : String)
    (paint : Paint) (lines : List Line) {column row : Nat}
    (outside : ¬area.contains column row = true) :
    (drawPanel setter canvas area title paint lines).cell column row = canvas.cell column row := by
  have outsideBorder : ¬area.inside.contains column row = true := fun inside =>
    outside (contains_of_inside inside)
  rw [drawPanel, Canvas.paragraph_outside _ _ _ outsideBorder, Canvas.box_outside _ _ _ outside]

/-- Where the items are drawn. -/
def catalogPanel (viewport : Viewport) : Area :=
  (catalogArea viewport.width viewport.height).inside

variable [Widget W] (setter : Typesetter)

/-- Inside the catalog's panel nothing is drawn but the rows of its items. -/
theorem drawOn_catalog_cell {viewport : Viewport} {column row : Nat}
    (inside : (catalogPanel viewport).contains column row = true) :
    (scene.drawOn setter viewport).cell column row =
      match (Item.rows (catalogPanel viewport).height scene.catalogItems)[
          row - (catalogPanel viewport).row]? with
      | none => {}
      | some (line, paint) =>
          (setter.item (catalogPanel viewport).width line).put
            (column - (catalogPanel viewport).column) (({} : Cell).painted paint) := by
  obtain ⟨width, height, small⟩ := viewport
  have bounds := (contains_iff _ _ _).mp inside
  simp only [catalogPanel, catalogArea, Area.inside, rightColumn, registersWidth, listingWidth,
    screenHeight, upperHeight, messagesHeight] at bounds
  have noStatus : ¬(statusArea width height).contains column row = true := by
    simp only [contains_iff, statusArea]
    omega
  have noMessages : ¬(messagesArea width height).contains column row = true := by
    simp only [contains_iff, messagesArea, upperHeight, messagesHeight]
    omega
  have noScreen : ¬(screenArea width height).contains column row = true := by
    simp only [contains_iff, screenArea, screenHeight]
    omega
  have noListing : ¬(listingArea height).contains column row = true := by
    simp only [contains_iff, listingArea, registersWidth, listingWidth]
    omega
  have noRegisters : ¬(registersArea height).contains column row = true := by
    simp only [contains_iff, registersArea, registersWidth]
    omega
  unfold drawOn
  dsimp only
  rw [Canvas.paragraph_outside _ _ _ noStatus, drawMessages,
    drawPanel_outside _ _ _ _ _ noMessages, drawCatalog]
  rw [catalogPanel] at inside ⊢
  rw [Canvas.items_cell _ _ _ inside, Canvas.box_inside _ _ _ inside,
    drawPanel_outside _ _ _ _ _ noScreen, drawPanel_outside _ _ _ _ _ noListing,
    drawPanel_outside _ _ _ _ _ noRegisters]
  rfl

/-- A cell of the row under the cursor before any letter is set on it. -/
def reversedCell : Cell :=
  ({} : Cell).painted { reversed := true }

/-- Where the entry under the cursor fits into the panel with all entries before it, each of its
lines is set there on a reversed row. -/
theorem drawOn_cursor_row {entry : Entry} (atCursor : scene.entries[scene.cursor]? = some entry)
    {viewport : Viewport}
    (fits : scene.rowsAbove scene.cursor + (scene.catalogItem scene.cursor entry).lines.length ≤
      (catalogPanel viewport).height)
    {row : Nat} {line : Line}
    (drawn : (scene.catalogItem scene.cursor entry).lines[row]? = some line)
    {column : Nat} (bounded : column < (catalogPanel viewport).width) :
    (scene.drawOn setter viewport).cell ((catalogPanel viewport).column + column)
        ((catalogPanel viewport).row + scene.rowsAbove scene.cursor + row) =
      (setter.item (catalogPanel viewport).width line).put column reversedCell := by
  have rowBounded := (List.getElem?_eq_some_iff.mp drawn).1
  have inside : (catalogPanel viewport).contains ((catalogPanel viewport).column + column)
      ((catalogPanel viewport).row + scene.rowsAbove scene.cursor + row) = true := by
    rw [contains_iff]
    omega
  have listed : scene.catalogItems[scene.cursor]? =
      some (scene.catalogItem scene.cursor entry) := by
    rw [catalogItems, List.getElem?_mapIdx, atCursor]
    rfl
  have onRow := Item.rows_at listed drawn fits
  rw [drawOn_catalog_cell scene setter inside, Nat.add_assoc, Nat.add_sub_cancel_left,
    Nat.add_sub_cancel_left]
  unfold rowsAbove
  rw [onRow]
  simp [catalogItem, reversedCell]

variable {setter} (lawful : setter.Lawful)

include lawful

/-- Where it does not fit, nothing in the panel is reversed. -/
theorem drawOn_cursor_cut {entry : Entry} (atCursor : scene.entries[scene.cursor]? = some entry)
    {viewport : Viewport}
    (cut : (catalogPanel viewport).height <
      scene.rowsAbove scene.cursor + (scene.catalogItem scene.cursor entry).lines.length)
    {column row : Nat} (inside : (catalogPanel viewport).contains column row = true) :
    ((scene.drawOn setter viewport).cell column row).style.reversed = false := by
  rw [drawOn_catalog_cell scene setter inside]
  cases found : (Item.rows (catalogPanel viewport).height scene.catalogItems)[
      row - (catalogPanel viewport).row]? with
  | none => rfl
  | some drawn =>
      obtain ⟨line, paint⟩ := drawn
      obtain ⟨index, item, listed, member, painted, fits⟩ :=
        Item.of_mem_rows (List.mem_of_getElem? found)
      rw [catalogItems, List.getElem?_mapIdx, Option.map_eq_some_iff] at listed
      obtain ⟨other, stands, rfl⟩ := listed
      have elsewhere : index ≠ scene.cursor := by
        rintro rfl
        rw [atCursor] at stands
        cases stands
        exact absurd cut (Nat.not_lt.mpr fits)
      obtain ⟨text, rfl⟩ := scene.text_of_mem_lines member
      have unreversed : (({} : Cell).painted paint).style.reversed = false := by
        have plain : paint.reversed = false := by
          rw [show paint = _ from painted]
          simpa [catalogItem] using elsewhere
        simp [Cell.painted, Paint.onto, plain]
      dsimp only
      rcases lawful.item_style text (catalogPanel viewport).width
        (column - (catalogPanel viewport).column) (({} : Cell).painted paint) with kept | hidden
      · rw [kept, unreversed]
      · rw [hidden]

/-- The entry under the cursor takes rows below those of the entries before it, at least one each,
and exactly one each if no title has a line feed. If the panel has room for all of them then the
lines of the entry are set there on reversed rows, so that every cell is reversed but those that a
wide glyph hides, and a printed text stands there letter by letter. If it has not then no cell of
the panel is reversed: the list does not follow the cursor. -/
theorem cursor_entry_drawn_if_it_fits {entry : Entry}
    (atCursor : scene.entries[scene.cursor]? = some entry) (viewport : Viewport) :
    let lines := (scene.catalogItem scene.cursor entry).lines
    let panel := catalogPanel viewport
    (scene.cursor ≤ scene.rowsAbove scene.cursor ∧ lines ≠ []) ∧
      ((∀ listed ∈ scene.entries, '\n' ∉ listed.title.toList) →
        scene.rowsAbove scene.cursor = scene.cursor ∧
          lines = [Line.of (scene.entryText scene.cursor entry) {}]) ∧
      (scene.rowsAbove scene.cursor + lines.length ≤ panel.height →
        ∀ row line, lines[row]? = some line → ∀ column < panel.width,
          let cell := (scene.drawOn setter viewport).cell (panel.column + column)
            (panel.row + scene.rowsAbove scene.cursor + row)
          cell = (setter.item panel.width line).put column reversedCell ∧
            (cell.style.reversed = true ∨ column ≠ 0 ∧ cell = {}) ∧
            ∀ text, line = Line.of text {} → (∀ c ∈ text.toList, Text.Printed c) →
              cell = reversedCell.lettered {} text.toList[column]?) ∧
      (panel.height < scene.rowsAbove scene.cursor + lines.length →
        ∀ column row, panel.contains column row = true →
          ((scene.drawOn setter viewport).cell column row).style.reversed = false) := by
  dsimp only
  have bound : scene.cursor ≤ scene.entries.length :=
    Nat.le_of_lt (List.getElem?_eq_some_iff.mp atCursor).1
  refine ⟨⟨scene.le_rowsAbove bound, scene.catalogItem_lines_ne_nil _ _⟩, ?_, ?_, ?_⟩
  · intro oneLine
    exact ⟨scene.rowsAbove_of_oneLine oneLine bound,
      scene.catalogItem_oneLine _ (oneLine entry (List.mem_of_getElem? atCursor))⟩
  · intro fits row line drawn column bounded
    rw [scene.drawOn_cursor_row setter atCursor fits drawn bounded]
    refine ⟨rfl, ?_, ?_⟩
    · obtain ⟨text, rfl⟩ := scene.text_of_mem_lines (List.mem_of_getElem? drawn)
      rcases lawful.item_style text (catalogPanel viewport).width column reversedCell with
        kept | hidden
      · exact .inl (by rw [kept]; rfl)
      · by_cases first : column = 0
        · rw [first, lawful.item_first]
          exact .inl rfl
        · exact .inr ⟨first, hidden⟩
    · rintro text rfl printed
      exact lawful.item_letters text {} _ column reversedCell printed bounded
  · intro cut column row inside
    exact scene.drawOn_cursor_cut lawful atCursor cut inside

omit lawful

/-- Two entries, and the cursor on the second. -/
def pair : Scene Gauge where
  board := ⟨[]⟩
  screen := ""
  entries := [⟨"Maze", "maze.ch8"⟩, ⟨"Puzzle", "puzzle.ch8"⟩]
  cursor := 1
  selected := none
  loading := false
  phase := .running
  messages := []

/-- With room for both, the second is drawn in the second row. -/
theorem pair_drawn_in_two_rows :
    Typesetter.plain.Lawful ∧ pair.entries[pair.cursor]? = some ⟨"Puzzle", "puzzle.ch8"⟩ ∧
      (catalogPanel (.ofTerminal 70 45)).height = 2 ∧
      (pair.draw 70 45).cell 59 36 = ⟨" ", { reversed := true }⟩ ∧
      (pair.draw 70 45).cell 61 36 = ⟨"P", { reversed := true }⟩ := by
  have atCursor : pair.entries[pair.cursor]? = some ⟨"Puzzle", "puzzle.ch8"⟩ := rfl
  obtain ⟨-, oneLine, drawn, -⟩ := cursor_entry_drawn_if_it_fits pair Typesetter.plain_lawful
    atCursor (.ofTerminal 70 45)
  obtain ⟨above, single⟩ := oneLine (by decide)
  rw [above, single] at drawn
  have letter (column : Nat) (room : column < 10) :
      (pair.draw 70 45).cell (59 + column) 36 =
        reversedCell.lettered {} "  Puzzle".toList[column]? :=
    (drawn (by decide) 0 _ rfl column room).2.2 _ rfl (Text.printed_of_all (by decide))
  exact ⟨Typesetter.plain_lawful, atCursor, rfl, letter 0 (by decide), letter 2 (by decide)⟩

/-- With room for the first entry only, the cursor is not seen. -/
theorem cursor_below_panel_unseen :
    pair.cursor < pair.entries.length ∧
      (catalogPanel (.ofTerminal 70 44)).width = 10 ∧
      (catalogPanel (.ofTerminal 70 44)).height = 1 ∧
      ∀ column row, (catalogPanel (.ofTerminal 70 44)).contains column row = true →
        ((pair.draw 70 44).cell column row).style.reversed = false := by
  have oneLine : ∀ entry ∈ pair.entries, '\n' ∉ entry.title.toList := by decide
  have above : pair.rowsAbove pair.cursor = 1 := pair.rowsAbove_of_oneLine oneLine (by decide)
  have filled := pair.catalogItem_oneLine pair.cursor (oneLine ⟨"Puzzle", "puzzle.ch8"⟩ (by decide))
  refine ⟨by decide, rfl, rfl, fun column row inside => ?_⟩
  apply pair.drawOn_cursor_cut Typesetter.plain_lawful rfl _ inside
  rw [above, filled]
  decide

end Scene

end Chip8Inspector
