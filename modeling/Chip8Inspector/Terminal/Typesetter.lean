import Chip8Inspector.Terminal.Canvas

/-!
Lines of text, and what sets them on the cells of a row. How many columns a character takes, and
what happens to those that have no glyph of their own, is the typesetter's business alone.
Whatever is drawn with lines is drawn with a given typesetter, and what is proved of it holds for
every one that keeps the laws below.
-/

set_option autoImplicit false

namespace Chip8Inspector

/-- The characters of ASCII from the space to the tilde stand for themselves everywhere. -/
def Text.Printed (c : Char) : Prop :=
  0x20 ≤ c.toNat ∧ c.toNat ≤ 0x7e

instance (c : Char) : Decidable (Text.Printed c) :=
  inferInstanceAs (Decidable (_ ∧ _))

namespace Terminal

structure Span where
  text : String
  paint : Paint

abbrev Line := List Span

def Line.of (text : String) (paint : Paint) : Line :=
  [⟨text, paint⟩]

def Cell.painted (cell : Cell) (paint : Paint) : Cell :=
  { cell with style := paint.onto cell.style }

/-- A letter on a cell, if there is one. -/
def Cell.lettered (cell : Cell) (paint : Paint) : Option Char → Cell
  | none => cell
  | some letter => ⟨String.singleton letter, paint.onto cell.style⟩

/-- What is put over the cells of a row, column by column. -/
structure Strip where
  put : Nat → Cell → Cell

/-- Sets a line on a row of a given width. The lines of an item come on a row that has the item's
paint already. -/
structure Typesetter where
  paragraph : Nat → Line → Strip
  item : Nat → Line → Strip

/-- Printed letters stand side by side from the left, for as long as there are columns. -/
def SetsLetters (set : Nat → Line → Strip) : Prop :=
  ∀ (text : String) (paint : Paint) (width column : Nat) (cell : Cell),
    (∀ c ∈ text.toList, Text.Printed c) → column < width →
      (set width (.of text paint)).put column cell = cell.lettered paint text.toList[column]?

structure Typesetter.Lawful (setter : Typesetter) : Prop where
  paragraph_letters : SetsLetters setter.paragraph
  item_letters : SetsLetters setter.item
  /-- A text without paint leaves the style of its row as it is, but for cells that are hidden by a
  glyph of more than one column: these are emptied. -/
  item_style : ∀ (text : String) (width column : Nat) (cell : Cell),
    ((setter.item width (.of text {})).put column cell).style = cell.style ∨
      (setter.item width (.of text {})).put column cell = {}
  /-- Nothing stands before the first cell of a row that could hide it. -/
  item_first : ∀ (text : String) (width : Nat) (cell : Cell),
    ((setter.item width (.of text {})).put 0 cell).style = cell.style

end Terminal

end Chip8Inspector
