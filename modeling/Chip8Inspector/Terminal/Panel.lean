import Chip8Inspector.Terminal.Typesetter

/-!
Boxes with a title, and two ways to fill them: lines of text one below the other, and items
whose paint covers the whole of their rows. Whatever does not fit is cut off.
-/

set_option autoImplicit false

namespace Chip8Inspector.Terminal

/-- The border of a box at a position of it, if there is one. The title lies on the top row
between the corners; a box of one row has nothing but its top row. -/
def borderAt (width height : Nat) (title : Array Char) (column row : Nat) : Option Char :=
  if row = 0 then
    if column = 0 then some '┌'
    else if column + 1 = width then some '┐'
    else some ((title[column - 1]?).getD '─')
  else if row + 1 = height then
    if column = 0 then some '└'
    else if column + 1 = width then some '┘'
    else some '─'
  else if column = 0 ∨ column + 1 = width then some '│'
  else none

/-- Draws an empty box. Its paint covers the border and the inside. -/
def Canvas.box (canvas : Canvas) (area : Area) (title : String) (paint : Paint) : Canvas :=
  let letters := title.toList.toArray
  canvas.within area fun column row cell =>
    (cell.lettered {} (borderAt area.width area.height letters column row)).painted paint

def Canvas.paragraph (canvas : Canvas) (setter : Typesetter) (area : Area) (lines : List Line) :
    Canvas :=
  let rows := (lines.map (setter.paragraph area.width)).toArray
  canvas.within area fun column row cell =>
    match rows[row]? with
    | none => cell
    | some strip => strip.put column cell

structure Item where
  lines : List Line
  paint : Paint

/-- The rows of the items from the first one down. An item that does not fit as a whole is left
out, and so are all behind it. -/
def Item.rows (height : Nat) : List Item → List (Line × Paint)
  | [] => []
  | item :: rest =>
      if item.lines.length ≤ height then
        item.lines.map (·, item.paint) ++ rows (height - item.lines.length) rest
      else []

def Canvas.items (canvas : Canvas) (setter : Typesetter) (area : Area) (items : List Item) :
    Canvas :=
  let rows := ((Item.rows area.height items).map fun row =>
    (setter.item area.width row.1, row.2)).toArray
  canvas.within area fun column row cell =>
    match rows[row]? with
    | none => cell
    | some (strip, paint) => strip.put column (cell.painted paint)

end Chip8Inspector.Terminal
