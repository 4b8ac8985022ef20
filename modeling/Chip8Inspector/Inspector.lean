import Chip8Inspector.Catalog.Chooser
import Chip8Inspector.FrameLoop
import Chip8Inspector.Host.Command

/-!
The inspector itself: a machine, the board that shows it, the frame loop, the keypad and the
catalog. All that happens to it are the host's commands, ticks, waits and the arrival of files.
-/

set_option autoImplicit false

namespace Chip8Inspector

structure Inspector (M : Type) where
  machine : M
  board : Board Gauge
  frameLoop : FrameLoop
  keypad : Keypad
  chooser : Chooser
  running : Bool
  journal : Log.Journal

namespace Inspector

variable {M : Type}

/-- The journal before the first message. Nothing below `debug` is ever kept. -/
def freshJournal (threshold : Log.Threshold) : Log.Journal where
  threshold := threshold.stricter (.upTo .debug)

def make (machine : M) (settings : Settings) (threshold : Log.Threshold) : Inspector M where
  machine := machine
  board := Board.standard
  frameLoop := { window := settings.window }
  keypad := Keypad.idle settings.holdFrames
  chooser := {}
  running := true
  journal := freshJournal threshold

def report (inspector : Inspector M) (notices : List Notice) : Inspector M :=
  { inspector with journal := inspector.journal.writeAll (notices.map Notice.record) }

def withChooser (inspector : Inspector M) (chooser : Chooser) (notices : List Notice) :
    Inspector M :=
  { inspector with chooser := chooser }.report notices

def withTurn (inspector : Inspector M) (turn : Turn M Gauge) : Inspector M :=
  { inspector with
    machine := turn.machine
    board := turn.board
    frameLoop := turn.frameLoop }.report turn.notices

def loadCatalog (inspector : Inspector M) (path : String)
    (contents : Except FileError Program) : Except CatalogError Unit × Inspector M :=
  let (outcome, chooser, notices) := inspector.chooser.load path contents
  (outcome, inspector.withChooser chooser notices)

def installCatalog (inspector : Inspector M) (catalog : Catalog) : Inspector M :=
  let (chooser, notices) := inspector.chooser.install catalog
  inspector.withChooser chooser notices

def select (inspector : Inspector M) (index : Nat) : Bool × Inspector M :=
  let (chosen, chooser, notices) := inspector.chooser.select index
  (chosen, inspector.withChooser chooser notices)

def loadSelected (inspector : Inspector M) : Bool × Inspector M :=
  let (chosen, chooser, notices) := inspector.chooser.loadSelected
  (chosen, inspector.withChooser chooser notices)

def complete (inspector : Inspector M) (generation : Nat)
    (contents : Except FileError Program) : Inspector M :=
  { inspector with chooser := inspector.chooser.complete generation contents }

variable [Machine M]

def withKeypad (inspector : Inspector M) (changed : Keypad × List KeyEdge) : Inspector M :=
  { inspector with
    keypad := changed.1
    machine := Machine.hearAll inspector.machine changed.2 }

/-- The host reports a release. The first report of all is worth a notice. -/
def keyUp (inspector : Inspector M) (key : String) : Inspector M :=
  let reported := if inspector.keypad.hostReleases then [] else [Notice.releasesReported]
  (inspector.withKeypad (inspector.keypad.keyUp key)).report reported

def togglePause (inspector : Inspector M) : Inspector M :=
  let (frameLoop, notices) := inspector.frameLoop.togglePause
  { inspector with frameLoop := frameLoop }.report notices

def handle (inspector : Inspector M) : Command → Inspector M
  | .keyDown key => inspector.withKeypad (inspector.keypad.keyDown key)
  | .keyUp key => inspector.keyUp key
  | .togglePause => inspector.togglePause
  | .step => inspector.withTurn (inspector.frameLoop.step inspector.machine inspector.board)
  | .selectPrevious => { inspector with chooser := inspector.chooser.selectPrevious }
  | .selectNext => { inspector with chooser := inspector.chooser.selectNext }
  | .loadSelected => inspector.loadSelected.2
  | .quit => { inspector with running := false }

def handleAll (inspector : Inspector M) (commands : List Command) : Inspector M :=
  commands.foldl handle inspector

def refresh (inspector : Inspector M) : Inspector M :=
  match Machine.snapshot inspector.machine inspector.frameLoop.window with
  | (.error cause, machine) =>
      { inspector with machine := machine }.report [.noSnapshotAfterLoad cause]
  | (.ok snapshot, machine) =>
      let synced := inspector.board.syncAll snapshot
      { inspector with machine := machine, board := synced.board }.report
        (synced.errors.map .widgetFailed)

def start (inspector : Inspector M) : Inspector M :=
  let (_, frameLoop, notices) := inspector.frameLoop.start
  { inspector with frameLoop := frameLoop }.report notices

/-- Gives a fetched program to the machine, shows it, and starts the frame loop if this is the
first. On any failure the machine keeps what it had. -/
def commit (inspector : Inspector M) (outcome : Except LoadError LoadedProgram) :
    Inspector M :=
  match outcome with
  | .error cause => inspector.report [.loadFailed cause]
  | .ok program =>
      match Machine.load inspector.machine program.bytes with
      | (.error cause, machine) =>
          { inspector with machine := machine }.report [.programRefused program.title cause]
      | (.ok (), machine) =>
          ({ inspector with machine := machine }.report
            [.loaded program.title program.bytes.size]).refresh.start

def takeArrival (inspector : Inspector M) : Inspector M :=
  match inspector.chooser.poll with
  | (none, chooser, notices) => inspector.withChooser chooser notices
  | (some outcome, chooser, notices) => (inspector.withChooser chooser notices).commit outcome

/-- One frame of the host: a program that has arrived is taken, the keypad grows older, and the
frame loop does its work if it asked for the frame. -/
def tick (inspector : Inspector M) : Inspector M :=
  let taken := inspector.takeArrival
  let aged := taken.withKeypad taken.keypad.tick
  aged.withTurn (aged.frameLoop.frame aged.machine aged.board)

def waitForLoad (inspector : Inspector M) : Bool × Inspector M :=
  match inspector.chooser.wait with
  | (none, chooser, notices) => (false, inspector.withChooser chooser notices)
  | (some outcome, chooser, notices) =>
      (true, (inspector.withChooser chooser notices).commit outcome)

end Inspector

end Chip8Inspector
