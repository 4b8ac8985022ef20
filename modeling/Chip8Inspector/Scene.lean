import Chip8Inspector.Inspector
import Chip8Inspector.Terminal.Glyph
import Chip8Inspector.Terminal.Panel
import Chip8Inspector.Terminal.Viewport

/-!
Everything that one frame of the terminal shows, and how it is laid out. The bottom row holds
the status, the six rows above it the newest messages. Of the rest, 24 columns show the
registers, 34 the listing, and what is left the display with the catalog below it.
-/

set_option autoImplicit false

namespace Chip8Inspector

open Terminal

structure Scene (W : Type) where
  board : Board W
  screen : String
  entries : List Entry
  cursor : Nat
  selected : Option Nat
  loading : Bool
  phase : Phase
  messages : List String

def Scene.messageCount : Nat := 16

def Inspector.scene {M : Type} [Machine M] (inspector : Inspector M) : Scene Gauge where
  board := inspector.board
  screen := Machine.screen inspector.machine
  entries := inspector.chooser.entries
  cursor := inspector.chooser.cursor
  selected := inspector.chooser.selected
  loading := inspector.chooser.loader.pending
  phase := inspector.frameLoop.phase
  messages := inspector.journal.recent Scene.messageCount

namespace Scene

def registersWidth : Nat := 24

def listingWidth : Nat := 34

def messagesHeight : Nat := 6

/-- The display has 64 by 32 pixels and a border. -/
def screenWidth : Nat := 66

def screenHeight : Nat := 34

def upperHeight (height : Nat) : Nat :=
  height - (messagesHeight + 1)

def rightColumn : Nat := registersWidth + listingWidth

def registersArea (height : Nat) : Area :=
  ⟨0, 0, registersWidth, upperHeight height⟩

def listingArea (height : Nat) : Area :=
  ⟨registersWidth, 0, listingWidth, upperHeight height⟩

def screenArea (width height : Nat) : Area :=
  ⟨rightColumn, 0, min (width - rightColumn) screenWidth, min screenHeight (upperHeight height)⟩

def catalogArea (width height : Nat) : Area :=
  ⟨rightColumn, screenHeight, width - rightColumn, upperHeight height - screenHeight⟩

def messagesArea (width height : Nat) : Area :=
  ⟨0, upperHeight height, width, messagesHeight⟩

def statusArea (width height : Nat) : Area :=
  ⟨0, height - 1, width, 1⟩

def highlight : Paint :=
  { foreground := some .yellow, reversed := true }

def faceLine (face : Face) : Line :=
  Line.of face.text (if face.highlighted then highlight else {})

variable {W : Type} [Widget W]

def widgetLines (board : Board W) (ids : List String) : List Line :=
  (ids.filterMap board.widget?).flatMap fun widget =>
    (Widget.shown widget).map fun surface => faceLine surface.face

def registerLines (board : Board W) : List Line :=
  widgetLines board ["program-counter", "index-register", "delay-timer", "sound-timer"] ++
    Line.of "" {} :: widgetLines board ["variable-registers"]

def listingLines (board : Board W) : List Line :=
  widgetLines board ["partial-disassembler"]

def withoutReturn (line : List Char) : List Char :=
  if line.getLast? = some '\r' then line.dropLast else line

/-- The lines of a text. Each ends with a line feed, with or without a carriage return before
it, and only the last may lack that end. -/
def textLines (text : List Char) : List (List Char) :=
  let pieces := text.splitOn '\n'
  pieces.dropLast.map withoutReturn ++ (pieces.getLast?.filter (· ≠ [])).toList

def plainLines (text : String) : List Line :=
  (textLines text.toList).map fun line => Line.of (String.ofList line) {}

/-- A star marks the entry that was fetched. -/
def entryText (scene : Scene W) (index : Nat) (entry : Entry) : String :=
  (if scene.selected = some index then "* " else "  ") ++ entry.title

/-- The entry under the cursor is reversed. -/
def catalogItem (scene : Scene W) (index : Nat) (entry : Entry) : Item where
  lines := plainLines (scene.entryText index entry)
  paint := { reversed := index == scene.cursor }

def catalogItems (scene : Scene W) : List Item :=
  scene.entries.mapIdx scene.catalogItem

def catalogTitle (scene : Scene W) : String :=
  if scene.loading then "Programs (loading)" else "Programs"

/-- The newest messages that fit into the inside of an area, oldest first. -/
def messageLines (messages : List String) (area : Area) : List Line :=
  (messages.drop (messages.length - area.inside.height)).map fun message => Line.of message {}

def phaseText : Phase → String
  | .unstarted => "no program"
  | .running => "running"
  | .paused => "paused"
  | .stepping => "stepping"

def statusLine (phase : Phase) : Line :=
  Line.of (" " ++ phaseText phase ++ " ") { foreground := some .green } ++
    Line.of " space pause  n step  up/down choose  enter load  esc quit"
      { foreground := some .darkGray }

def drawPanel (setter : Typesetter) (canvas : Canvas) (area : Area) (title : String)
    (paint : Paint) (lines : List Line) : Canvas :=
  (canvas.box area title paint).paragraph setter area.inside lines

def drawMessages (setter : Typesetter) (canvas : Canvas) (area : Area) (messages : List String) :
    Canvas :=
  drawPanel setter canvas area "Messages" {} (messageLines messages area)

def drawCatalog (setter : Typesetter) (canvas : Canvas) (area : Area) (scene : Scene W) :
    Canvas :=
  (canvas.box area scene.catalogTitle {}).items setter area.inside scene.catalogItems

def drawOn (scene : Scene W) (setter : Typesetter) (viewport : Viewport) : Canvas :=
  let width := viewport.width
  let height := viewport.height
  let registers := drawPanel setter .blank (registersArea height) "Registers" {}
    (registerLines scene.board)
  let listing := drawPanel setter registers (listingArea height) "Disassembly" {}
    (listingLines scene.board)
  let screen := drawPanel setter listing (screenArea width height) "CHIP-8"
    { background := some .black } (plainLines scene.screen)
  let catalog := drawCatalog setter screen (catalogArea width height) scene
  let messages := drawMessages setter catalog (messagesArea width height) scene.messages
  messages.paragraph setter (statusArea width height) [statusLine scene.phase]

def draw (scene : Scene W) (width height : Nat) : Canvas :=
  scene.drawOn .plain (.ofTerminal width height)

end Scene

end Chip8Inspector
