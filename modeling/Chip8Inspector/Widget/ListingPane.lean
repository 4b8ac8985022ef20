import Chip8Inspector.Widget.ListingLine
import Chip8Inspector.Widget.RegisterBank

/-!
The listing around the program counter. Its length follows the snapshot: lines that stay keep
what they hold and are drawn again only when that changes, lines at the end come and go.
-/

set_option autoImplicit false

namespace Chip8Inspector

structure ListingPane where
  lines : List ListingLine
  surface : Surface
  deriving DecidableEq

namespace ListingPane

def id : String := "partial-disassembler"

def face (pane : ListingPane) : Face :=
  slotsFace (pane.lines.map ListingLine.id)

def render (pane : ListingPane) : ListingPane :=
  { pane with surface := pane.surface.draw pane.face }

def make : ListingPane :=
  render ⟨[], {}⟩

/-- The lines cut to a length, or followed by blank ones for the positions that are new. -/
def resized (lines : List ListingLine) (length : Nat) : List ListingLine :=
  lines.take length ++
    (List.range' lines.length (length - lines.length)).map ListingLine.make

/-- The pane with as many lines as asked for. It is drawn again only when that number is new. -/
def resize (pane : ListingPane) (length : Nat) : Bool × ListingPane :=
  if pane.lines.length = length then (false, pane)
  else (true, render { pane with lines := resized pane.lines length })

def update (pane : ListingPane) (programCounter : UInt16) (listing : List ListedWord) :
    Bool × ListingPane :=
  let (rebuilt, fitted) := pane.resize listing.length
  let updates := List.zipWith
    (fun line listed => line.put (.ofListed programCounter listed)) fitted.lines listing
  (rebuilt || updates.any Prod.fst, { fitted with lines := updates.map Prod.snd })

def sync (pane : ListingPane) (snapshot : Snapshot) : Except WidgetError Bool × ListingPane :=
  let (rendered, updated) := pane.update snapshot.programCounter snapshot.listing
  (.ok rendered, updated)

end ListingPane

end Chip8Inspector
