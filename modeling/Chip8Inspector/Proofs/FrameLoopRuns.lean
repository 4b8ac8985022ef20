import Chip8Inspector.FrameLoop
import Mathlib.Logic.Function.Iterate

/-!
# The frame loop is driven by its operations alone

Which phase the loop is in, and how often it works, can be told from the calls it got: machine
and board have no say in either, whatever they refuse. What they do have a say in is what a round
of work does to them, and whether it counts as completed.
-/

namespace Chip8Inspector

set_option autoImplicit false

inductive LoopCall where
  | start
  | togglePause
  | step
  | frame
  deriving DecidableEq

/-- The phase after a call. A phase that is not mentioned stays as it is. -/
def Phase.next : Phase → LoopCall → Phase
  | .unstarted, .start => .running
  | .running, .togglePause => .paused
  | .running, .step => .paused
  | .paused, .togglePause => .running
  | phase, _ => phase

def Phase.works : Phase → LoopCall → Bool
  | .running, .frame => true
  | .paused, .step => true
  | _, _ => false

def Phase.workload : Phase → List LoopCall → Nat
  | _, [] => 0
  | phase, call :: later =>
      (phase.next call).workload later + (phase.works call).toNat

section Rounds

variable {M W : Type} [Machine M] [Widget W]

/-- One round of work on a machine and a board: one step, and the snapshot behind it handed out.
A refusal ends the round where it arises. -/
def round (window : Window) (pair : M × Board W) : M × Board W :=
  match Machine.advance pair.1 with
  | (.error _, machine) => (machine, pair.2)
  | (.ok (), machine) =>
      match Machine.snapshot machine window with
      | (.error _, machine) => (machine, pair.2)
      | (.ok snapshot, machine) => (machine, (pair.2.syncAll snapshot).board)

def completes (window : Window) (machine : M) : Bool :=
  match Machine.advance machine with
  | (.error _, _) => false
  | (.ok (), machine) =>
      match Machine.snapshot machine window with
      | (.error _, _) => false
      | (.ok _, _) => true

def completions (window : Window) : Nat → M × Board W → Nat
  | 0, _ => 0
  | count + 1, pair =>
      (completes window pair.1).toNat + completions window count (round window pair)

theorem completions_add (window : Window) (later first : Nat) (pair : M × Board W) :
    completions window (later + first) pair =
      completions window first pair +
        completions window later ((round window)^[first] pair) := by
  induction first generalizing pair with
  | zero => simp [completions]
  | succ first ih =>
      rw [← Nat.add_assoc]
      simp only [completions, Function.iterate_succ_apply]
      rw [ih (round window pair), Nat.add_assoc]

/-- A turn of the loop is one round of work, and the loop itself does nothing but count it. -/
theorem iterate_is_round (frameLoop : FrameLoop) (machine : M) (board : Board W) :
    let turn := frameLoop.iterate machine board
    (turn.machine, turn.board) = round frameLoop.window (machine, board) ∧
      turn.frameLoop =
        { frameLoop with
          iterations := frameLoop.iterations + (completes frameLoop.window machine).toNat } := by
  unfold FrameLoop.iterate round completes
  rcases Machine.advance machine with ⟨outcome, advanced⟩
  cases outcome with
  | error cause => exact ⟨rfl, rfl⟩
  | ok _ =>
      dsimp only
      rcases Machine.snapshot advanced frameLoop.window with ⟨answer, seen⟩
      cases answer with
      | error cause => exact ⟨rfl, rfl⟩
      | ok snapshot =>
          dsimp only
          generalize board.syncAll snapshot = synced
          exact ⟨rfl, rfl⟩

end Rounds

structure Workbench (M W : Type) where
  frameLoop : FrameLoop
  machine : M
  board : Board W

namespace Workbench

variable {M W : Type} [Machine M] [Widget W]

def fresh (window : Window) (machine : M) (board : Board W) : Workbench M W where
  frameLoop := { window := window }
  machine := machine
  board := board

def ofTurn (turn : Turn M W) : Workbench M W where
  frameLoop := turn.frameLoop
  machine := turn.machine
  board := turn.board

def call (bench : Workbench M W) : LoopCall → Workbench M W
  | .start => { bench with frameLoop := bench.frameLoop.start.2.1 }
  | .togglePause => { bench with frameLoop := bench.frameLoop.togglePause.1 }
  | .step => ofTurn (bench.frameLoop.step bench.machine bench.board)
  | .frame => ofTurn (bench.frameLoop.frame bench.machine bench.board)

def run (bench : Workbench M W) (calls : List LoopCall) : Workbench M W :=
  calls.foldl call bench

/-- A running loop has asked for the next frame, and one that was never started has not. While
paused both happen: a request may be left over from before the pause. -/
structure Scheduled (frameLoop : FrameLoop) : Prop where
  running : frameLoop.phase = .running → frameLoop.requested = true
  unstarted : frameLoop.phase = .unstarted → frameLoop.requested = false

theorem fresh_scheduled (window : Window) : Scheduled { window := window } :=
  ⟨fun impossible => (by cases impossible), fun _ => rfl⟩

/-- What a call does to the loop itself. The request decides whether a frame is answered, so
that without `Scheduled` a running loop could lose one. -/
structure Follows (bench : Workbench M W) (call : LoopCall) : Prop where
  phase : (bench.call call).frameLoop.phase = bench.frameLoop.phase.next call
  window : (bench.call call).frameLoop.window = bench.frameLoop.window
  scheduled : Scheduled (bench.call call).frameLoop
  work : ((bench.call call).machine, (bench.call call).board) =
    (round bench.frameLoop.window)^[(bench.frameLoop.phase.works call).toNat]
      (bench.machine, bench.board)
  counted : (bench.call call).frameLoop.iterations = bench.frameLoop.iterations +
    completions bench.frameLoop.window (bench.frameLoop.phase.works call).toNat
      (bench.machine, bench.board)

theorem turn_of_iterate (frameLoop : FrameLoop) (machine : M) (board : Board W) :
    let turn := frameLoop.iterate machine board
    ((turn.machine, turn.board) = (round frameLoop.window)^[1] (machine, board)) ∧
      turn.frameLoop.phase = frameLoop.phase ∧
      turn.frameLoop.window = frameLoop.window ∧
      turn.frameLoop.requested = frameLoop.requested ∧
      turn.frameLoop.iterations =
        frameLoop.iterations + completions frameLoop.window 1 (machine, board) := by
  rcases iterate_is_round frameLoop machine board with ⟨worked, counted⟩
  intro turn
  have same : turn.frameLoop = _ := counted
  rw [same]
  exact ⟨worked, rfl, rfl, rfl, rfl⟩

/-- A frame takes the request back even when the loop is not running. -/
theorem frame_idle (frameLoop : FrameLoop) (idle : frameLoop.phase ≠ .running) (machine : M)
    (board : Board W) :
    frameLoop.frame machine board =
      { frameLoop := { frameLoop with requested := false }, machine, board } := by
  unfold FrameLoop.frame
  rw [if_neg]
  simp [idle]

theorem frame_running (frameLoop : FrameLoop) (running : frameLoop.phase = .running)
    (requested : frameLoop.requested = true) (machine : M) (board : Board W) :
    let turn := FrameLoop.iterate { frameLoop with requested := false } machine board
    frameLoop.frame machine board =
      { turn with frameLoop := { turn.frameLoop with requested := true } } := by
  intro turn
  have stillRunning : turn.frameLoop.phase = .running :=
    (turn_of_iterate { frameLoop with requested := false } machine board).2.1.trans running
  unfold FrameLoop.frame
  rw [if_pos (by simp [running, requested])]
  exact if_pos stillRunning

theorem call_follows (bench : Workbench M W) (scheduled : Scheduled bench.frameLoop)
    (call : LoopCall) : bench.Follows call := by
  rcases bench with ⟨⟨phase, requested, window, iterations⟩, machine, board⟩
  rcases scheduled with ⟨running, unstarted⟩
  cases call with
  | start =>
      cases phase with
      | unstarted => exact ⟨rfl, rfl, ⟨fun _ => rfl, nofun⟩, rfl, rfl⟩
      | running => exact ⟨rfl, rfl, ⟨running, unstarted⟩, rfl, rfl⟩
      | paused => exact ⟨rfl, rfl, ⟨running, unstarted⟩, rfl, rfl⟩
      | stepping => exact ⟨rfl, rfl, ⟨running, unstarted⟩, rfl, rfl⟩
  | togglePause =>
      cases phase with
      | unstarted => exact ⟨rfl, rfl, ⟨running, unstarted⟩, rfl, rfl⟩
      | running => exact ⟨rfl, rfl, ⟨nofun, nofun⟩, rfl, rfl⟩
      | paused => exact ⟨rfl, rfl, ⟨fun _ => rfl, nofun⟩, rfl, rfl⟩
      | stepping => exact ⟨rfl, rfl, ⟨running, unstarted⟩, rfl, rfl⟩
  | step =>
      cases phase with
      | unstarted => exact ⟨rfl, rfl, ⟨running, unstarted⟩, rfl, rfl⟩
      | running => exact ⟨rfl, rfl, ⟨nofun, nofun⟩, rfl, rfl⟩
      | paused =>
          have turn := turn_of_iterate ⟨.stepping, requested, window, iterations⟩ machine board
          exact ⟨rfl, turn.2.2.1, ⟨nofun, nofun⟩, turn.1, turn.2.2.2.2⟩
      | stepping => exact ⟨rfl, rfl, ⟨running, unstarted⟩, rfl, rfl⟩
  | frame =>
      by_cases runs : phase = .running
      · subst runs
        have turn := turn_of_iterate ⟨.running, false, window, iterations⟩ machine board
        have framed := frame_running ⟨.running, requested, window, iterations⟩ rfl
          (running rfl) machine board
        have after : Workbench.call ⟨⟨.running, requested, window, iterations⟩, machine, board⟩
            .frame = _ := congrArg ofTurn framed
        constructor
        · rw [after]
          exact turn.2.1
        · rw [after]
          exact turn.2.2.1
        · rw [after]
          exact ⟨fun _ => rfl, fun wrong => by cases turn.2.1.symm.trans wrong⟩
        · rw [after]
          exact turn.1
        · rw [after]
          exact turn.2.2.2.2
      · have framed := frame_idle ⟨phase, requested, window, iterations⟩ runs machine board
        have after : Workbench.call ⟨⟨phase, requested, window, iterations⟩, machine, board⟩
            .frame = _ := congrArg ofTurn framed
        have rests : phase.next .frame = phase ∧ phase.works .frame = false := by
          cases phase <;> first | exact ⟨rfl, rfl⟩ | exact absurd rfl runs
        constructor
        · rw [after]
          exact rests.1.symm
        · rw [after]
          rfl
        · rw [after]
          exact ⟨fun wrong => absurd wrong runs, fun _ => rfl⟩
        · rw [after, rests.2]
          rfl
        · rw [after, rests.2]
          rfl

/-- The same for any number of calls: the phases are those of the automaton, and the work is that
of as many rounds in a row as the automaton says. -/
theorem run_follows (bench : Workbench M W) (scheduled : Scheduled bench.frameLoop)
    (calls : List LoopCall) :
    let finish := bench.run calls
    let count := bench.frameLoop.phase.workload calls
    let pair := (bench.machine, bench.board)
    finish.frameLoop.phase = calls.foldl Phase.next bench.frameLoop.phase ∧
      Scheduled finish.frameLoop ∧
      (finish.machine, finish.board) = (round bench.frameLoop.window)^[count] pair ∧
      finish.frameLoop.iterations =
        bench.frameLoop.iterations + completions bench.frameLoop.window count pair := by
  induction calls generalizing bench with
  | nil => exact ⟨rfl, scheduled, rfl, rfl⟩
  | cons call later ih =>
      have first := call_follows bench scheduled call
      rcases ih (bench.call call) first.scheduled with ⟨phase, stillScheduled, work, counted⟩
      rw [first.phase] at phase work counted
      rw [first.window, first.work] at work counted
      refine ⟨phase, stillScheduled, ?_, ?_⟩
      · exact work.trans (Function.iterate_add_apply _ _ _ _).symm
      · rw [Phase.workload, completions_add, ← Nat.add_assoc, ← first.counted]
        exact counted

theorem fresh_run (window : Window) (machine : M) (board : Board W) (calls : List LoopCall) :
    let finish := (fresh window machine board).run calls
    let count := Phase.unstarted.workload calls
    finish.frameLoop.phase = calls.foldl Phase.next .unstarted ∧
      Scheduled finish.frameLoop ∧
      (finish.machine, finish.board) = (round window)^[count] (machine, board) ∧
      finish.frameLoop.iterations = completions window count (machine, board) := by
  rcases run_follows (fresh window machine board) (fresh_scheduled window) calls with
    ⟨phase, scheduled, work, counted⟩
  exact ⟨phase, scheduled, work, counted.trans (Nat.zero_add _)⟩

/-- Calls that are answered by equally much work cannot be told apart afterwards, except by the
phase that they lead to. -/
theorem equal_work (window : Window) (machine : M) (board : Board W)
    {left right : List LoopCall}
    (same : Phase.unstarted.workload left = Phase.unstarted.workload right) :
    let first := (fresh window machine board).run left
    let second := (fresh window machine board).run right
    first.machine = second.machine ∧ first.board = second.board ∧
      first.frameLoop.iterations = second.frameLoop.iterations := by
  intro first second
  rcases fresh_run window machine board left with ⟨-, -, leftWork, leftCounted⟩
  rcases fresh_run window machine board right with ⟨-, -, rightWork, rightCounted⟩
  rw [same] at leftWork leftCounted
  have pair : (first.machine, first.board) = (second.machine, second.board) :=
    leftWork.trans rightWork.symm
  exact ⟨congrArg Prod.fst pair, congrArg Prod.snd pair, leftCounted.trans rightCounted.symm⟩

end Workbench

/-- A machine beside a count of the steps that were asked of it. The count is kept outside, so
that no machine can tell whether it is counted. -/
structure Metered (M : Type) where
  machine : M
  advances : Nat := 0

instance {M : Type} [Machine M] : Machine (Metered M) where
  snapshot metered window :=
    let (answer, machine) := Machine.snapshot metered.machine window
    (answer, { metered with machine := machine })
  advance metered :=
    let (outcome, machine) := Machine.advance metered.machine
    (outcome, { machine := machine, advances := metered.advances + 1 })
  load metered program :=
    let (outcome, machine) := Machine.load metered.machine program
    (outcome, { metered with machine := machine })
  keyDown metered key := { metered with machine := Machine.keyDown metered.machine key }
  keyUp metered key := { metered with machine := Machine.keyUp metered.machine key }
  screen metered := Machine.screen metered.machine

section Metering

variable {M W : Type} [Machine M] [Widget W]

theorem round_metered (window : Window) (machine : M) (advances : Nat) (board : Board W) :
    round window ((⟨machine, advances⟩ : Metered M), board) =
      (⟨(round window (machine, board)).1, advances + 1⟩,
        (round window (machine, board)).2) := by
  unfold round
  simp only [Machine.advance, Machine.snapshot]
  rcases Machine.advance machine with ⟨outcome, advanced⟩
  cases outcome with
  | error cause => rfl
  | ok _ =>
      dsimp only
      rcases Machine.snapshot advanced window with ⟨answer, seen⟩
      cases answer with
      | error cause => rfl
      | ok snapshot => dsimp only

theorem rounds_metered (window : Window) (count : Nat) (machine : M) (advances : Nat)
    (board : Board W) :
    (round window)^[count] ((⟨machine, advances⟩ : Metered M), board) =
      (⟨((round window)^[count] (machine, board)).1, advances + count⟩,
        ((round window)^[count] (machine, board)).2) := by
  induction count generalizing machine advances board with
  | zero => rfl
  | succ count ih =>
      simp only [Function.iterate_succ_apply]
      rw [round_metered, ih]
      have sum : advances + 1 + count = advances + (count + 1) := by omega
      rw [sum]

theorem workload_of_frames (count : Nat) :
    Phase.workload .running (List.replicate count .frame) = count := by
  induction count with
  | zero => rfl
  | succ count ih =>
      simp only [List.replicate_succ, Phase.workload, Phase.next, Phase.works, ih,
        Bool.toNat_true]

theorem workload_of_steps (count : Nat) :
    Phase.workload .paused (List.replicate count .step) = count := by
  induction count with
  | zero => rfl
  | succ count ih =>
      simp only [List.replicate_succ, Phase.workload, Phase.next, Phase.works, ih,
        Bool.toNat_true]

theorem phases_never_stepping (phase : Phase) (calm : phase ≠ .stepping)
    (calls : List LoopCall) : calls.foldl Phase.next phase ≠ .stepping := by
  induction calls generalizing phase with
  | nil => exact calm
  | cons call later ih =>
      apply ih
      cases phase <;> cases call <;> simp_all [Phase.next]

/-- For every machine and every board, whatever they refuse, and every sequence of calls: the
phase is that of the automaton, a running loop has always asked for its next frame, the machine is
advanced once for every call that the automaton answers with work and never otherwise, and all
that remains of the calls in machine, board and count of frames is how many of them those were.
So `count` single steps do what `count` frames do. -/
theorem loop_driven_by_calls (window : Window) (machine : M) (board : Board W)
    (calls : List LoopCall) :
    let finish := (Workbench.fresh window machine board).run calls
    let metered := (Workbench.fresh window ({ machine } : Metered M) board).run calls
    let count := Phase.unstarted.workload calls
    finish.frameLoop.phase = calls.foldl Phase.next .unstarted ∧
      finish.frameLoop.phase ≠ .stepping ∧
      (finish.frameLoop.phase = .running → finish.frameLoop.requested = true) ∧
      (finish.frameLoop.phase = .unstarted → finish.frameLoop.requested = false) ∧
      metered.machine = { machine := finish.machine, advances := count } ∧
      (finish.machine, finish.board) = (round window)^[count] (machine, board) ∧
      finish.frameLoop.iterations = completions window count (machine, board) ∧
      ∀ times,
        let framed := (Workbench.fresh window machine board).run
          (.start :: List.replicate times .frame)
        let stepped := (Workbench.fresh window machine board).run
          (.start :: .togglePause :: List.replicate times .step)
        framed.machine = stepped.machine ∧ framed.board = stepped.board ∧
          framed.frameLoop.iterations = stepped.frameLoop.iterations := by
  intro finish metered count
  rcases Workbench.fresh_run window machine board calls with
    ⟨phase, scheduled, work, counted⟩
  rcases Workbench.fresh_run window ({ machine } : Metered M) board calls with
    ⟨-, -, meteredWork, -⟩
  refine ⟨phase, ?_, scheduled.running, scheduled.unstarted, ?_, work, counted, ?_⟩
  · rw [phase]
    exact phases_never_stepping .unstarted nofun calls
  · have rounds := meteredWork.trans (rounds_metered window count machine 0 board)
    rw [Nat.zero_add, ← work] at rounds
    exact congrArg Prod.fst rounds
  · intro times
    apply Workbench.equal_work
    exact (workload_of_frames times).trans (workload_of_steps times).symm

end Metering

end Chip8Inspector
