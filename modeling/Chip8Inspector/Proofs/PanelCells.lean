import Chip8Inspector.Terminal.Panel

/-!
# What stands on each cell of a panel

A layer changes no cell outside its area. Inside, a box leaves its paint, a paragraph its lines one
below the other, and a list its items in the rows that those before them leave.
-/

namespace Chip8Inspector

set_option autoImplicit false

namespace Terminal

theorem contains_iff (area : Area) (column row : Nat) :
    area.contains column row = true ↔
      (area.column ≤ column ∧ column < area.column + area.width) ∧
        area.row ≤ row ∧ row < area.row + area.height := by
  simp [Area.contains]

theorem contains_of_inside {area : Area} {column row : Nat}
    (inside : area.inside.contains column row = true) : area.contains column row = true := by
  rw [contains_iff] at inside ⊢
  simp only [Area.inside] at inside
  omega

namespace Canvas

variable (canvas : Canvas) {area : Area} {column row : Nat}

theorem within_inside (change : Nat → Nat → Cell → Cell)
    (inside : area.contains column row = true) :
    (canvas.within area change).cell column row =
      change (column - area.column) (row - area.row) (canvas.cell column row) :=
  if_pos inside

theorem within_outside (change : Nat → Nat → Cell → Cell)
    (outside : ¬area.contains column row = true) :
    (canvas.within area change).cell column row = canvas.cell column row :=
  if_neg outside

theorem box_outside (title : String) (paint : Paint) (outside : ¬area.contains column row = true) :
    (canvas.box area title paint).cell column row = canvas.cell column row := by
  rw [box]
  exact canvas.within_outside _ outside

theorem paragraph_outside (setter : Typesetter) (lines : List Line)
    (outside : ¬area.contains column row = true) :
    (canvas.paragraph setter area lines).cell column row = canvas.cell column row := by
  rw [paragraph]
  exact canvas.within_outside _ outside

/-- A box covers what lies inside its border with its paint only. -/
theorem box_inside (title : String) (paint : Paint)
    (inside : area.inside.contains column row = true) :
    (canvas.box area title paint).cell column row = (canvas.cell column row).painted paint := by
  have bounds := (contains_iff _ _ _).mp inside
  simp only [Area.inside] at bounds
  have noBorder : borderAt area.width area.height title.toList.toArray (column - area.column)
      (row - area.row) = none := by
    unfold borderAt
    rw [if_neg (by omega), if_neg (by omega), if_neg (by omega)]
  rw [box, within_inside _ _ (contains_of_inside inside), noBorder]
  rfl

/-- A paragraph has one line on each row from the top. -/
theorem paragraph_cell (setter : Typesetter) (lines : List Line)
    (inside : area.contains column row = true) :
    (canvas.paragraph setter area lines).cell column row =
      match lines[row - area.row]? with
      | none => canvas.cell column row
      | some line =>
          (setter.paragraph area.width line).put (column - area.column)
            (canvas.cell column row) := by
  rw [Canvas.paragraph, within_inside _ _ inside]
  simp only [List.getElem?_toArray, List.getElem?_map]
  cases lines[row - area.row]? <;> rfl

theorem items_cell (setter : Typesetter) (items : List Item)
    (inside : area.contains column row = true) :
    (canvas.items setter area items).cell column row =
      match (Item.rows area.height items)[row - area.row]? with
      | none => canvas.cell column row
      | some (line, paint) =>
          (setter.item area.width line).put (column - area.column)
            ((canvas.cell column row).painted paint) := by
  rw [Canvas.items, within_inside _ _ inside]
  simp only [List.getElem?_toArray, List.getElem?_map]
  cases (Item.rows area.height items)[row - area.row]? <;> rfl

end Canvas

namespace Item

/-- The rows that items take together. -/
def totalHeight : List Item → Nat
  | [] => 0
  | item :: rest => item.lines.length + totalHeight rest

/-- An item stands below those before it, if there is room for all of its lines. -/
theorem rows_at {items : List Item} {index : Nat} {item : Item}
    (listed : items[index]? = some item) {row : Nat} {line : Line}
    (within : item.lines[row]? = some line) {height : Nat}
    (fits : totalHeight (items.take index) + item.lines.length ≤ height) :
    (rows height items)[totalHeight (items.take index) + row]? = some (line, item.paint) := by
  have bounded := (List.getElem?_eq_some_iff.mp within).1
  induction items generalizing index height with
  | nil => cases listed
  | cons first rest ih =>
      cases index with
      | zero =>
          cases listed
          rw [List.take_zero] at fits ⊢
          rw [rows, if_pos (by simpa [totalHeight] using fits),
            List.getElem?_append_left (by simpa [totalHeight] using bounded)]
          simp [totalHeight, within]
      | succ index =>
          rw [List.take_succ_cons, totalHeight] at fits ⊢
          have below := @ih index listed (height - first.lines.length) (by omega)
          rw [rows, if_pos (by omega), List.getElem?_append_right (by simp; omega), ← below]
          congr 1
          simp
          omega

/-- Nothing else is listed: every row belongs to an item that fits. -/
theorem of_mem_rows {items : List Item} {height : Nat} {row : Line × Paint}
    (member : row ∈ rows height items) :
    ∃ index item, items[index]? = some item ∧ row.1 ∈ item.lines ∧ row.2 = item.paint ∧
      totalHeight (items.take index) + item.lines.length ≤ height := by
  induction items generalizing height with
  | nil => cases member
  | cons first rest ih =>
      rw [rows] at member
      split at member
      · next room =>
          rcases List.mem_append.mp member with own | later
          · obtain ⟨line, inside, rfl⟩ := List.mem_map.mp own
            exact ⟨0, first, rfl, inside, rfl, by simpa [totalHeight] using room⟩
          · obtain ⟨index, item, listed, inside, paint, fits⟩ := ih later
            refine ⟨index + 1, item, listed, inside, paint, ?_⟩
            rw [List.take_succ_cons, totalHeight]
            omega
      · cases member

theorem length_le_totalHeight {items : List Item} (filled : ∀ item ∈ items, item.lines ≠ []) :
    items.length ≤ totalHeight items := by
  induction items with
  | nil => exact Nat.zero_le _
  | cons first rest ih =>
      have own := List.length_pos_iff.mpr (filled first List.mem_cons_self)
      have later := ih fun item member => filled item (List.mem_cons_of_mem first member)
      rw [totalHeight, List.length_cons]
      omega

theorem totalHeight_of_oneLine {items : List Item}
    (oneLine : ∀ item ∈ items, item.lines.length = 1) : totalHeight items = items.length := by
  induction items with
  | nil => rfl
  | cons first rest ih =>
      have later := ih fun item member => oneLine item (List.mem_cons_of_mem first member)
      rw [totalHeight, oneLine first List.mem_cons_self, later, List.length_cons, Nat.add_comm]

end Item

end Terminal

end Chip8Inspector
