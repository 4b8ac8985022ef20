import Chip8Inspector.Proofs.InspectorHistory
import Chip8Inspector.Proofs.WalkerHistory

/-!
# A machine that is overheard

What an inspector asks of its machine can be written down beside the machine. An inspector knows a
machine by its answers only, so that one of an overheard machine does all that it would do without
the list, and what was written down tells how the machine came to be as it is.
-/

namespace Chip8Inspector

set_option autoImplicit false

/-- A machine beside the calls that it got, oldest first. -/
structure Overheard (M : Type) where
  machine : M
  calls : List MachineCall := []

namespace Overheard

variable {M : Type}

/-- What one more call has made of the machine. -/
def note (heard : Overheard M) (call : MachineCall) (machine : M) : Overheard M :=
  ⟨machine, heard.calls ++ [call]⟩

end Overheard

instance {M : Type} [Machine M] : Machine (Overheard M) where
  snapshot heard window :=
    let (answer, machine) := Machine.snapshot heard.machine window
    (answer, heard.note (.snapshot window) machine)
  advance heard :=
    let (outcome, machine) := Machine.advance heard.machine
    (outcome, heard.note .advance machine)
  load heard program :=
    let (outcome, machine) := Machine.load heard.machine program
    (outcome, heard.note (.load program) machine)
  keyDown heard key := heard.note (.keyDown key) (Machine.keyDown heard.machine key)
  keyUp heard key := heard.note (.keyUp key) (Machine.keyUp heard.machine key)
  screen heard := Machine.screen heard.machine

theorem undergo_overheard {M : Type} [Machine M] (heard : Overheard M) (call : MachineCall) :
    Machine.undergo heard call = ⟨Machine.undergo heard.machine call, heard.calls ++ [call]⟩ := by
  cases call <;> rfl

section Calls

variable {M : Type} [Machine M]

def KeyEdge.call : KeyEdge → MachineCall
  | .down key => .keyDown (UInt8.ofNat key.val)
  | .up key => .keyUp (UInt8.ofNat key.val)

theorem hearAll_replay (machine : M) (edges : List KeyEdge) :
    Machine.hearAll machine edges = Machine.replay machine (edges.map KeyEdge.call) := by
  unfold Machine.hearAll Machine.replay
  rw [List.foldl_map]
  congr 1
  funext machine edge
  cases edge <;> rfl

namespace Workbench

variable (Kept : M → Prop)
  (snapshot_keeps : ∀ machine window, Kept machine → Kept (Machine.snapshot machine window).2)

section Loop

variable (advance_keeps : ∀ machine, Kept machine → Kept (Machine.advance machine).2)

include snapshot_keeps advance_keeps

theorem round_keeps (window : Window) {machine : M} (kept : Kept machine) (board : Board Gauge) :
    Kept (round window (machine, board)).1 := by
  have advanced := advance_keeps machine kept
  unfold round
  dsimp only
  generalize Machine.advance machine = result at advanced ⊢
  rcases result with ⟨outcome, stepped⟩
  cases outcome with
  | error cause => exact advanced
  | ok _ =>
      have seen := snapshot_keeps stepped window advanced
      dsimp only
      generalize Machine.snapshot stepped window = result at seen ⊢
      rcases result with ⟨answer, photographed⟩
      cases answer <;> exact seen

theorem iterate_keeps (frameLoop : FrameLoop) {machine : M} (kept : Kept machine)
    (board : Board Gauge) : Kept (frameLoop.iterate machine board).machine := by
  have worked := congrArg Prod.fst (iterate_is_round frameLoop machine board).1
  dsimp only at worked
  rw [worked]
  exact round_keeps Kept snapshot_keeps advance_keeps frameLoop.window kept board

/-- The loop only steps and photographs its machine. -/
theorem call_keeps {bench : Workbench M Gauge} (kept : Kept bench.machine) (call : LoopCall) :
    Kept (bench.call call).machine := by
  cases call with
  | start => exact kept
  | togglePause => exact kept
  | step =>
      simp only [Workbench.call, FrameLoop.step, ofTurn]
      cases bench.frameLoop.phase with
      | paused => exact iterate_keeps Kept snapshot_keeps advance_keeps _ kept bench.board
      | _ => exact kept
  | frame =>
      simp only [Workbench.call, FrameLoop.frame, ofTurn]
      split
      · split <;> exact iterate_keeps Kept snapshot_keeps advance_keeps _ kept bench.board
      · exact kept

end Loop

section Install

variable (load_keeps : ∀ machine program, Kept machine → Kept (Machine.load machine program).2)

include snapshot_keeps load_keeps

/-- A program is given to the machine, which is photographed if it takes it, and not stepped. -/
theorem install_keeps {bench : Workbench M Gauge} (kept : Kept bench.machine) (program : Program) :
    Kept (bench.install program).machine := by
  have loaded := load_keeps bench.machine program kept
  unfold install
  generalize Machine.load bench.machine program = result at loaded ⊢
  rcases result with ⟨outcome, machine⟩
  cases outcome with
  | error cause => exact loaded
  | ok _ =>
      have seen := snapshot_keeps machine bench.frameLoop.window loaded
      simp only [refresh, Workbench.call]
      generalize Machine.snapshot machine bench.frameLoop.window = result at seen ⊢
      rcases result with ⟨answer, photographed⟩
      cases answer <;> exact seen

/-- A load that was handed out is given to the machine if it is a program. -/
theorem installs_keep {bench : Workbench M Gauge} (kept : Kept bench.machine)
    (handed : Option (Except LoadError LoadedProgram)) :
    Kept ((Inspector.installs handed).foldl act bench).machine := by
  rcases handed with none | cause | program
  · exact kept
  · exact kept
  · exact install_keeps Kept snapshot_keeps load_keeps kept program.bytes

end Install

end Workbench

/-- What no call at all can change, no history of an inspector changes. -/
theorem live_keeps (Kept : M → Prop)
    (keeps : ∀ machine call, Kept machine → Kept (Machine.undergo machine call))
    (inspector : Inspector M) (kept : Kept inspector.machine) (events : List InspectorEvent) :
    Kept (inspector.live events).machine := by
  have replay_keeps : ∀ calls machine, Kept machine → Kept (Machine.replay machine calls) := by
    intro calls
    induction calls with
    | nil => exact fun _ kept => kept
    | cons call later ih => exact fun machine kept => ih _ (keeps machine call kept)
  have acts_keep : ∀ (acts : List BenchAct) (bench : Workbench M Gauge), Kept bench.machine →
      Kept (acts.foldl Workbench.act bench).machine := by
    intro acts
    induction acts with
    | nil => exact fun _ kept => kept
    | cons act later ih =>
        intro bench kept
        apply ih
        cases act with
        | loop call notStart =>
            exact Workbench.call_keeps Kept
              (fun machine window => keeps machine (.snapshot window))
              (fun machine => keeps machine .advance) kept call
        | install program =>
            exact Workbench.install_keeps Kept
              (fun machine window => keeps machine (.snapshot window))
              (fun machine program => keeps machine (.load program)) kept program.bytes
        | keys edges =>
            show Kept (Machine.hearAll bench.machine edges)
            rw [hearAll_replay]
            exact replay_keeps _ _ kept
  have finished : (inspector.live events).machine = _ :=
    congrArg Workbench.machine (Inspector.live_bench inspector events)
  rw [finished]
  exact acts_keep _ _ kept

/-- An overheard machine came to be as it is by the calls that were written down. -/
theorem overheard_replay (inspector : Inspector (Overheard M)) (start : M)
    (replayed : inspector.machine.machine = Machine.replay start inspector.machine.calls)
    (events : List InspectorEvent) :
    let heard := (inspector.live events).machine
    heard.machine = Machine.replay start heard.calls := by
  refine live_keeps (fun heard : Overheard M => heard.machine = Machine.replay start heard.calls)
    ?_ inspector replayed events
  intro heard call known
  rw [undergo_overheard, known]
  simp [Machine.replay]

end Calls

section Views

variable {M N : Type} [Machine M] [Machine N]

/-- A view of a machine that is a machine itself: it gives the same answers, and goes on as the
view of what the machine has become. -/
structure Faithful (view : M → N) : Prop where
  snapshot : ∀ machine window, Machine.snapshot (view machine) window =
    ((Machine.snapshot machine window).1, view (Machine.snapshot machine window).2)
  advance : ∀ machine, Machine.advance (view machine) =
    ((Machine.advance machine).1, view (Machine.advance machine).2)
  load : ∀ machine program, Machine.load (view machine) program =
    ((Machine.load machine program).1, view (Machine.load machine program).2)
  keyDown : ∀ machine key, Machine.keyDown (view machine) key = view (Machine.keyDown machine key)
  keyUp : ∀ machine key, Machine.keyUp (view machine) key = view (Machine.keyUp machine key)

theorem overheard_faithful : Faithful (Overheard.machine : Overheard M → M) where
  snapshot _ _ := rfl
  advance _ := rfl
  load _ _ := rfl
  keyDown _ _ := rfl
  keyUp _ _ := rfl

def Turn.through {W : Type} (view : M → N) (turn : Turn M W) : Turn N W where
  frameLoop := turn.frameLoop
  machine := view turn.machine
  board := turn.board
  report := turn.report
  notices := turn.notices

namespace Inspector

def through (view : M → N) (inspector : Inspector M) : Inspector N where
  machine := view inspector.machine
  board := inspector.board
  frameLoop := inspector.frameLoop
  keypad := inspector.keypad
  chooser := inspector.chooser
  running := inspector.running
  journal := inspector.journal

end Inspector

variable {view : M → N} (faithful : Faithful view)

include faithful

theorem iterate_through {W : Type} [Widget W] (frameLoop : FrameLoop) (machine : M)
    (board : Board W) :
    frameLoop.iterate (view machine) board = (frameLoop.iterate machine board).through view := by
  unfold FrameLoop.iterate
  rw [faithful.advance]
  rcases Machine.advance machine with ⟨outcome, advanced⟩
  cases outcome with
  | error cause => rfl
  | ok _ =>
      dsimp only
      rw [faithful.snapshot]
      rcases Machine.snapshot advanced frameLoop.window with ⟨answer, seen⟩
      cases answer with
      | error cause => rfl
      | ok snapshot =>
          dsimp only
          generalize board.syncAll snapshot = synced
          rfl

theorem step_through {W : Type} [Widget W] (frameLoop : FrameLoop) (machine : M)
    (board : Board W) :
    frameLoop.step (view machine) board = (frameLoop.step machine board).through view := by
  unfold FrameLoop.step
  cases frameLoop.phase with
  | paused =>
      dsimp only
      rw [iterate_through faithful]
      rfl
  | _ => rfl

theorem frame_through {W : Type} [Widget W] (frameLoop : FrameLoop) (machine : M)
    (board : Board W) :
    frameLoop.frame (view machine) board = (frameLoop.frame machine board).through view := by
  unfold FrameLoop.frame
  dsimp only
  rw [iterate_through faithful]
  split
  · generalize FrameLoop.iterate _ machine board = turn
    by_cases runs : turn.frameLoop.phase = .running <;> simp [Turn.through, runs]
  · rfl

namespace Inspector

theorem hearAll_through (machine : M) (edges : List KeyEdge) :
    Machine.hearAll (view machine) edges = view (Machine.hearAll machine edges) := by
  induction edges generalizing machine with
  | nil => rfl
  | cons edge later ih =>
      have first : Machine.hear (view machine) edge = view (Machine.hear machine edge) := by
        cases edge with
        | down key => exact faithful.keyDown machine _
        | up key => exact faithful.keyUp machine _
      show Machine.hearAll (Machine.hear (view machine) edge) later = _
      rw [first]
      exact ih (Machine.hear machine edge)

theorem withKeypad_through (inspector : Inspector M) (changed : Keypad × List KeyEdge) :
    (inspector.through view).withKeypad changed = (inspector.withKeypad changed).through view := by
  unfold withKeypad through
  rw [hearAll_through faithful]

theorem refresh_through (inspector : Inspector M) :
    (inspector.through view).refresh = inspector.refresh.through view := by
  unfold refresh through
  dsimp only
  rw [faithful.snapshot]
  rcases Machine.snapshot inspector.machine inspector.frameLoop.window with ⟨answer, seen⟩
  cases answer with
  | error cause => rfl
  | ok snapshot =>
      dsimp only
      generalize inspector.board.syncAll snapshot = synced
      rfl

theorem commit_through (inspector : Inspector M) (outcome : Except LoadError LoadedProgram) :
    (inspector.through view).commit outcome = (inspector.commit outcome).through view := by
  cases outcome with
  | error cause => rfl
  | ok program =>
      unfold commit
      have loaded := faithful.load inspector.machine program.bytes
      have given : (inspector.through view).machine = view inspector.machine := rfl
      dsimp only
      rw [given, loaded]
      rcases Machine.load inspector.machine program.bytes with ⟨answer, machine⟩
      cases answer with
      | error cause => rfl
      | ok _ =>
          let given : Inspector M := { inspector with machine := machine }.report
            [.loaded program.title program.bytes.size]
          exact congrArg start (refresh_through faithful given)

theorem takeArrival_through (inspector : Inspector M) :
    (inspector.through view).takeArrival = inspector.takeArrival.through view := by
  unfold takeArrival
  have same : (inspector.through view).chooser = inspector.chooser := rfl
  rw [same]
  rcases inspector.chooser.poll with ⟨outcome, chooser, notices⟩
  cases outcome with
  | none => rfl
  | some outcome => exact commit_through faithful (inspector.withChooser chooser notices) outcome

theorem waitForLoad_through (inspector : Inspector M) :
    (inspector.through view).waitForLoad.2 = inspector.waitForLoad.2.through view := by
  unfold waitForLoad
  have same : (inspector.through view).chooser = inspector.chooser := rfl
  rw [same]
  rcases inspector.chooser.wait with ⟨outcome, chooser, notices⟩
  cases outcome with
  | none => rfl
  | some outcome => exact commit_through faithful (inspector.withChooser chooser notices) outcome

theorem tick_through (inspector : Inspector M) :
    (inspector.through view).tick = inspector.tick.through view := by
  unfold tick
  dsimp only
  rw [takeArrival_through faithful]
  have keypad : (inspector.takeArrival.through view).keypad = inspector.takeArrival.keypad := rfl
  rw [keypad, withKeypad_through faithful]
  generalize inspector.takeArrival.withKeypad inspector.takeArrival.keypad.tick = aged
  exact congrArg (withTurn (aged.through view))
    (frame_through faithful aged.frameLoop aged.machine aged.board)

theorem handle_through (inspector : Inspector M) (command : Command) :
    (inspector.through view).handle command = (inspector.handle command).through view := by
  cases command with
  | keyDown key => exact withKeypad_through faithful inspector _
  | keyUp key =>
      exact congrArg (fun changed => report changed _) (withKeypad_through faithful inspector _)
  | step =>
      exact congrArg (withTurn (inspector.through view))
        (step_through faithful inspector.frameLoop inspector.machine inspector.board)
  | _ => rfl

theorem after_through (inspector : Inspector M) (event : InspectorEvent) :
    (inspector.through view).after event = (inspector.after event).through view := by
  cases event with
  | command command => exact handle_through faithful inspector command
  | tick => exact tick_through faithful inspector
  | wait => exact waitForLoad_through faithful inspector
  | _ => rfl

/-- An inspector of a view of a machine does what the inspector of the machine does. -/
theorem live_through (inspector : Inspector M) (events : List InspectorEvent) :
    (inspector.through view).live events = (inspector.live events).through view := by
  induction events generalizing inspector with
  | nil => rfl
  | cons event later ih =>
      show ((inspector.through view).after event).live later = _
      rw [after_through faithful]
      exact ih (inspector.after event)

end Inspector

end Views

/-- The inspector of an overheard machine, after everything that happens to it. -/
def overhearing {M : Type} [Machine M] (machine : M) (settings : Settings)
    (threshold : Log.Threshold) (events : List InspectorEvent) : Inspector (Overheard M) :=
  (Inspector.make { machine := machine } settings threshold).live events

theorem overhearing_seen {M : Type} [Machine M] (machine : M) (settings : Settings)
    (threshold : Log.Threshold) (events : List InspectorEvent) :
    (overhearing machine settings threshold events).through Overheard.machine =
      (Inspector.make machine settings threshold).live events :=
  (Inspector.live_through overheard_faithful _ events).symm

end Chip8Inspector
