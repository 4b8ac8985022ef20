import Chip8Inspector.Board
import Chip8Inspector.Log.Notice
import Chip8Inspector.Machine.Basic

/-!
Once per frame the machine is stepped, photographed, and its snapshot handed to the board. The
host owns the clock: the loop only says whether it wants the next frame, and the host's frame
takes that request back.
-/

set_option autoImplicit false

namespace Chip8Inspector

structure FrameLoop where
  phase : Phase := .unstarted
  requested : Bool := false
  window : Window
  iterations : Nat := 0
  deriving DecidableEq

/-- The machine and the board after a turn of the loop, and what there is to report. A turn
without a report did no work, or gave its frame up. -/
structure Turn (M W : Type) where
  frameLoop : FrameLoop
  machine : M
  board : Board W
  report : Option SyncReport := none
  notices : List Notice := []

namespace FrameLoop

def start (frameLoop : FrameLoop) : Bool × FrameLoop × List Notice :=
  match frameLoop.phase with
  | .unstarted =>
      (true, { frameLoop with phase := .running, requested := true }, [.loopStarted])
  | _ => (false, frameLoop, [])

def togglePause (frameLoop : FrameLoop) : FrameLoop × List Notice :=
  match frameLoop.phase with
  | .running => ({ frameLoop with phase := .paused }, [.paused])
  | .paused => ({ frameLoop with phase := .running, requested := true }, [.resumed])
  | phase => (frameLoop, [.pauseIgnored phase])

variable {M W : Type} [Machine M] [Widget W]

/-- One frame: step, snapshot, hand out. A refusal gives up this frame only. -/
def iterate (frameLoop : FrameLoop) (machine : M) (board : Board W) : Turn M W :=
  match Machine.advance machine with
  | (.error cause, machine) =>
      { frameLoop, machine, board, notices := [.stepFailed cause] }
  | (.ok (), machine) =>
      match Machine.snapshot machine frameLoop.window with
      | (.error cause, machine) =>
          { frameLoop, machine, board, notices := [.snapshotFailed cause] }
      | (.ok snapshot, machine) =>
          let synced := board.syncAll snapshot
          { frameLoop := { frameLoop with iterations := frameLoop.iterations + 1 }
            machine
            board := synced.board
            report := some synced.report
            notices := synced.errors.map .widgetFailed }

/-- While running, pauses, and the next frame does nothing. While paused, does exactly one
frame now and stays paused. -/
def step (frameLoop : FrameLoop) (machine : M) (board : Board W) : Turn M W :=
  match frameLoop.phase with
  | .running =>
      { frameLoop := { frameLoop with phase := .paused }
        machine, board, notices := [.pausedForStepping] }
  | .paused =>
      let turn := iterate { frameLoop with phase := .stepping } machine board
      { turn with frameLoop := { turn.frameLoop with phase := .paused } }
  | .unstarted | .stepping => { frameLoop, machine, board }

def frame (frameLoop : FrameLoop) (machine : M) (board : Board W) : Turn M W :=
  let taken := { frameLoop with requested := false }
  if frameLoop.requested && frameLoop.phase == .running then
    let turn := iterate taken machine board
    if turn.frameLoop.phase = .running then
      { turn with frameLoop := { turn.frameLoop with requested := true } }
    else turn
  else { frameLoop := taken, machine, board }

end FrameLoop

end Chip8Inspector
