import Chip8Inspector.Log.Journal
import Chip8Inspector.Widget.Basic

/-!
A board holds widgets under their ids. A snapshot is handed to six of those ids one after
another; a place that is empty or a widget that refuses is counted and reported, and the others
still get the snapshot.
-/

set_option autoImplicit false

namespace Chip8Inspector

/-- Widgets under the ids that they had when they were mounted, no id twice. -/
structure Board (W : Type) where
  places : List (String × W)
  deriving DecidableEq

structure SyncReport where
  rendered : Nat := 0
  /-- How many targets were missing or refused. -/
  failures : Nat := 0
  deriving DecidableEq

namespace Board

variable {W : Type}

def empty : Board W := ⟨[]⟩

def widget? (board : Board W) (id : String) : Option W :=
  board.places.lookup id

def unmount (board : Board W) (id : String) : Board W :=
  ⟨board.places.filter fun place => place.1 != id⟩

def mount [Widget W] (board : Board W) (widget : W) : Board W :=
  ⟨(board.unmount (Widget.id widget)).places ++ [(Widget.id widget, widget)]⟩

def replace (board : Board W) (id : String) (widget : W) : Board W :=
  ⟨board.places.map fun place => if place.1 = id then (id, widget) else place⟩

def mountAll [Widget W] (board : Board W) (widgets : List W) : Board W :=
  widgets.foldl mount board

def standard : Board Gauge :=
  empty.mountAll
    [.readout .programCounter, .readout .indexRegister, .registers .make,
      .readout .delayTimer, .readout .soundTimer, .listing .make]

def targets : List String :=
  ["program-counter", "index-register", "variable-registers", "delay-timer", "sound-timer",
    "partial-disassembler"]

variable [Widget W]

def render (board : Board W) (id : String) : Board W :=
  match board.widget? id with
  | none => board
  | some widget => board.replace id (Widget.render widget)

/-- Brings one widget up to date. An empty place is an error of its own. -/
def syncAt (board : Board W) (id : String) (snapshot : Snapshot) :
    Except WidgetError Bool × Board W :=
  match board.widget? id with
  | none => (.error (.missingTarget id), board)
  | some widget =>
      let (outcome, updated) := Widget.sync widget snapshot
      (outcome, board.replace id updated)

end Board

def SyncReport.count (report : SyncReport) : Except WidgetError Bool → SyncReport
  | .ok true => { report with rendered := report.rendered + 1 }
  | .ok false => report
  | .error _ => { report with failures := report.failures + 1 }

/-- The board after a snapshot was handed out, with the report and the causes of the failures
in the order in which they arose. -/
structure Synced (W : Type) where
  board : Board W
  report : SyncReport := {}
  errors : List WidgetError := []

namespace Board

variable {W : Type} [Widget W]

def errorsOf : Except WidgetError Bool → List WidgetError
  | .error cause => [cause]
  | .ok _ => []

def syncThrough (board : Board W) (ids : List String) (snapshot : Snapshot) : Synced W :=
  ids.foldl
    (fun synced id =>
      let (outcome, board) := synced.board.syncAt id snapshot
      ⟨board, synced.report.count outcome, synced.errors ++ errorsOf outcome⟩)
    { board := board }

def syncAll (board : Board W) (snapshot : Snapshot) : Synced W :=
  board.syncThrough targets snapshot

end Board

end Chip8Inspector
