import Chip8Inspector.Machine.Snapshot
import Chip8Inspector.Widget.Surface

/-!
One line of the listing. It is highlighted when it is the line of the program counter, and it is
drawn again exactly when one of the four things that it holds changes.
-/

set_option autoImplicit false

namespace Chip8Inspector

/-- What a line of the listing holds. A line that was never told anything holds `blank`. -/
structure LineContent where
  current : Bool
  location : UInt16
  high : UInt8
  low : UInt8
  text : String
  deriving DecidableEq

namespace LineContent

def blank : LineContent := ⟨false, 0, 0, 0, ""⟩

def word (content : LineContent) : UInt16 :=
  wordOfBytes content.high content.low

def face (content : LineContent) : Face where
  text :=
    Text.hexMarked 4 content.location.toNat ++ ": " ++ Text.hex 4 content.word.toNat ++ " - " ++
      content.text
  highlighted := content.current

def ofListed (programCounter : UInt16) (listed : ListedWord) : LineContent :=
  ⟨listed.location == programCounter, listed.location, listed.high, listed.low, listed.text⟩

end LineContent

structure ListingLine where
  id : String
  content : LineContent
  surface : Surface
  deriving DecidableEq

namespace ListingLine

def render (line : ListingLine) : ListingLine :=
  { line with surface := line.surface.draw line.content.face }

def make (position : Nat) : ListingLine :=
  render ⟨"disassembler-line-" ++ Text.decimal position, .blank, {}⟩

def put (line : ListingLine) (content : LineContent) : Bool × ListingLine :=
  if line.content = content then (false, line)
  else (true, render { line with content := content })

/-- A line takes exactly the two bytes of one word. -/
def update (line : ListingLine) (current : Bool) (location : UInt16) (bytes : List UInt8)
    (text : String) : Except WidgetError Bool × ListingLine :=
  match bytes with
  | [high, low] =>
      let (rendered, updated) := line.put ⟨current, location, high, low, text⟩
      (.ok rendered, updated)
  | _ => (.error (.invalidLength line.id 2 bytes.length), line)

end ListingLine

end Chip8Inspector
