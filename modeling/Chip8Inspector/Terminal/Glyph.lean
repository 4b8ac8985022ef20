import Chip8Inspector.Terminal.Typesetter
import Chip8Inspector.Text.Cluster
import Chip8Inspector.Text.Width

/-!
A typesetter that sets one glyph behind the other. It knows marks, wide characters and those
without a column, but none of the pictures and syllables that are joined from several characters.
-/

set_option autoImplicit false

namespace Chip8Inspector.Terminal

structure Glyph where
  symbol : String
  columns : Nat
  deriving DecidableEq

def Glyph.ofCluster (cluster : List Char) : Glyph :=
  ⟨String.ofList cluster, Text.columns cluster⟩

def Line.glyphs (line : Line) : List (Glyph × Paint) :=
  line.flatMap fun span =>
    (Text.clusters span.text.toList).map fun cluster => (Glyph.ofCluster cluster, span.paint)

/-- What a row has on one column: the beginning of a glyph, or more of the one before. -/
inductive Spot where
  | glyph (symbol : String) (paint : Paint)
  | covered
  deriving DecidableEq

/-- The row ends before the first glyph that the width has no room for. A glyph without a column
stands where the next one goes, so it is seen only if there is none. -/
def spots (width : Nat) : List (Glyph × Paint) → List Spot
  | [] => []
  | (glyph, paint) :: rest =>
      if width < glyph.columns then []
      else
        let later := spots (width - glyph.columns) rest
        if glyph.columns = 0 ∧ later ≠ [] then later
        else .glyph glyph.symbol paint :: (List.replicate (glyph.columns - 1) .covered ++ later)

namespace Typesetter

/-- Drops line feeds, and glyphs that are too wide even for an empty row. -/
def inParagraph (width : Nat) (glyph : Glyph) : Bool :=
  glyph.symbol != "\n" && glyph.columns ≤ width

def setGlyphs (width : Nat) (glyphs : List (Glyph × Paint)) (cover : Cell → Cell) : Strip :=
  let row := (spots width glyphs).toArray
  { put := fun column cell =>
      match row[column]? with
      | none => cell
      | some (.glyph symbol paint) => ⟨symbol, paint.onto cell.style⟩
      | some .covered => cover cell }

/-- In a paragraph a covered cell is left as it was, and in an item it is emptied. -/
def plain : Typesetter where
  paragraph width line :=
    setGlyphs width (line.glyphs.filter fun glyph => inParagraph width glyph.1) id
  item width line :=
    setGlyphs width (line.glyphs.filter fun glyph => 0 < glyph.1.columns) fun _ => {}

end Typesetter

end Chip8Inspector.Terminal
