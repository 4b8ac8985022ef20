/-!
Pictures made of character cells. A canvas says for every position which symbol stands there
in which style; drawing puts a layer over it that changes some of the positions.
-/

set_option autoImplicit false

namespace Chip8Inspector.Terminal

inductive Color where
  | reset
  | yellow
  | black
  | green
  | darkGray
  deriving DecidableEq

structure Style where
  foreground : Color := .reset
  background : Color := .reset
  reversed : Bool := false
  deriving DecidableEq

/-- A change of style: what it does not mention stays as it is. -/
structure Paint where
  foreground : Option Color := none
  background : Option Color := none
  reversed : Bool := false
  deriving DecidableEq

def Paint.onto (paint : Paint) (style : Style) : Style where
  foreground := paint.foreground.getD style.foreground
  background := paint.background.getD style.background
  reversed := paint.reversed || style.reversed

/-- A symbol that takes more than one column stands in the first of its cells and hides what
is in the others. -/
structure Cell where
  symbol : String := " "
  style : Style := {}
  deriving DecidableEq

structure Area where
  column : Nat
  row : Nat
  width : Nat
  height : Nat
  deriving DecidableEq

def Area.inside (area : Area) : Area :=
  ⟨area.column + 1, area.row + 1, area.width - 2, area.height - 2⟩

def Area.contains (area : Area) (column row : Nat) : Bool :=
  area.column ≤ column && column < area.column + area.width &&
    (area.row ≤ row && row < area.row + area.height)

structure Canvas where
  cell : Nat → Nat → Cell

def Canvas.blank : Canvas where
  cell _ _ := {}

/-- Changes the cells of an area. Positions are given to `change` as seen from the area's own
corner. -/
def Canvas.within (canvas : Canvas) (area : Area) (change : Nat → Nat → Cell → Cell) :
    Canvas where
  cell column row :=
    let cell := canvas.cell column row
    if area.contains column row then change (column - area.column) (row - area.row) cell
    else cell

def Canvas.rows (canvas : Canvas) (width height : Nat) : List (List Cell) :=
  (List.range height).map fun row => (List.range width).map fun column => canvas.cell column row

end Chip8Inspector.Terminal
