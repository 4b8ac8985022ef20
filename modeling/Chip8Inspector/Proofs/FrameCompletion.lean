import Chip8Inspector.Proofs.DispatchOutcomes
import Chip8Inspector.Proofs.ViewFreshness
import Chip8Inspector.Proofs.WalkerHistory

/-!
# No frame is ever given up

The loop leaves `unstarted` together with the first program that the walker takes, and from then
on the walker always has a program, so that every frame that the loop sets about is completed: the
walker steps, it is photographed, and every target takes the snapshot.
-/

namespace Chip8Inspector

set_option autoImplicit false

/-- A frame that the loop sets about: what it finds, and the turn that it takes. -/
structure Attempt (M : Type) where
  window : Window
  machine : M
  turn : Turn M Gauge

namespace Attempt

variable {M : Type} [Machine M]

/-- Neither the step nor the snapshot behind it was refused, no target of the snapshot failed, and
there was nothing to report. -/
structure Completed (attempt : Attempt M) : Prop where
  stepped : (Machine.advance attempt.machine).1 = .ok ()
  photographed : ∃ snapshot,
    (Machine.snapshot (Machine.advance attempt.machine).2 attempt.window).1 = .ok snapshot
  reported : ∃ report, attempt.turn.report = some report ∧ report.failures = 0
  quiet : attempt.turn.notices = []

end Attempt

namespace Workbench

variable {M : Type} [Machine M]

/-- The loop works in a frame that finds it running, and in a step that finds it paused. -/
def attempted? (bench : Workbench M Gauge) : LoopCall → Option (Attempt M)
  | .frame =>
      if bench.frameLoop.phase = .running then
        some
          { window := bench.frameLoop.window
            machine := bench.machine
            turn := bench.frameLoop.frame bench.machine bench.board }
      else none
  | .step =>
      if bench.frameLoop.phase = .paused then
        some
          { window := bench.frameLoop.window
            machine := bench.machine
            turn := bench.frameLoop.step bench.machine bench.board }
      else none
  | _ => none

def attempt? (bench : Workbench M Gauge) : BenchAct → Option (Attempt M)
  | .loop call _ => bench.attempted? call
  | _ => none

def attempts (bench : Workbench M Gauge) : List BenchAct → List (Attempt M)
  | [] => []
  | act :: later => (bench.attempt? act).toList ++ (bench.act act).attempts later

theorem attempts_append (bench : Workbench M Gauge) (earlier later : List BenchAct) :
    bench.attempts (earlier ++ later) =
      bench.attempts earlier ++ (earlier.foldl act bench).attempts later := by
  induction earlier generalizing bench with
  | nil => rfl
  | cons first rest ih =>
      simp only [List.cons_append, attempts, List.foldl_cons]
      rw [ih, List.append_assoc]

end Workbench

namespace Inspector

variable {M : Type} [Machine M]

/-- The inspector in the middle of a tick, as the frame loop finds it. -/
def aged (inspector : Inspector M) : Inspector M :=
  inspector.takeArrival.withKeypad inspector.takeArrival.keypad.tick

def attempt? (inspector : Inspector M) : InspectorEvent → Option (Attempt M)
  | .tick => inspector.aged.bench.attempted? .frame
  | .command .step => inspector.bench.attempted? .step
  | _ => none

/-- All frames that the loop sets about in a history, oldest first. -/
def attempts (inspector : Inspector M) : List InspectorEvent → List (Attempt M)
  | [] => []
  | event :: later =>
      (inspector.attempt? event).toList ++ (inspector.after event).attempts later

theorem installs_attempts (bench : Workbench M Gauge)
    (handed : Option (Except LoadError LoadedProgram)) : bench.attempts (installs handed) = [] := by
  cases handed with
  | none => rfl
  | some outcome => cases outcome <;> rfl

theorem actsOf_attempts (inspector : Inspector M) (event : InspectorEvent) :
    inspector.bench.attempts (inspector.actsOf event) = (inspector.attempt? event).toList := by
  cases event with
  | command command =>
      cases command with
      | step => exact List.append_nil _
      | _ => rfl
  | tick =>
      obtain ⟨taken, keypad⟩ := takeArrival_bench inspector
      have aged : inspector.aged.bench =
          inspector.takeArrival.bench.act (.keys inspector.keypad.tick.2) := by
        rw [← keypad]
        rfl
      unfold actsOf attempt?
      rw [Workbench.attempts_append, installs_attempts, ← taken, aged]
      exact List.append_nil _
  | wait => exact installs_attempts _ _
  | arrival generation contents => rfl
  | catalogFile path contents => rfl
  | catalog catalog => rfl
  | select index => rfl

/-- The frames of a history are those of the acts in it. -/
theorem acts_attempts (inspector : Inspector M) (events : List InspectorEvent) :
    inspector.bench.attempts (inspector.acts events) = inspector.attempts events := by
  induction events generalizing inspector with
  | nil => rfl
  | cons event later ih =>
      unfold acts attempts
      rw [Workbench.attempts_append, actsOf_attempts, ← after_bench, ih]

end Inspector

theorem iterate_completed {walker advanced : Walker} (granted : walker.advance = .ok advanced)
    {board : Board Gauge} {held : Snapshot} (displays : board.Displays held)
    (frameLoop : FrameLoop) :
    let turn := frameLoop.iterate walker board
    (∃ report, turn.report = some report ∧ report.failures = 0) ∧ turn.notices = [] := by
  obtain ⟨snapshot, taken⟩ := advanced.snapshot_succeeds frameLoop.window
  obtain ⟨failures, errors⟩ := Board.syncAll_grants displays snapshot
  unfold FrameLoop.iterate
  simp only [Walker.advance_granted granted, Walker.machine_snapshot, taken, errors]
  exact ⟨⟨_, rfl, failures⟩, rfl⟩

theorem granted_completes {walker advanced : Walker} (granted : walker.advance = .ok advanced)
    (window : Window) : completes window walker = true := by
  obtain ⟨snapshot, taken⟩ := advanced.snapshot_succeeds window
  simp only [completes, Walker.advance_granted granted, Walker.machine_snapshot, taken]

/-- What a round of work keeps of a walker and a board. -/
def Working (program : Option Program) (pair : Walker × Board Gauge) : Prop :=
  pair.1.Carries program ∧ ∃ held, pair.2.Displays held

theorem round_working {program : Option Program} (window : Window) {pair : Walker × Board Gauge}
    (working : Working program pair) : Working program (round window pair) := by
  rcases pair with ⟨walker, board⟩
  obtain ⟨carries, held, displays⟩ := working
  cases stepped : walker.advance with
  | error cause =>
      rw [round_refused stepped]
      exact ⟨carries, held, displays⟩
  | ok advanced =>
      obtain ⟨snapshot, -, worked⟩ := round_granted stepped window board
      rw [worked]
      refine ⟨Walker.advance_carries carries stepped, snapshot, ?_⟩
      dsimp only
      exact Board.syncAll_displays displays snapshot

namespace Workbench

/-- A loop that was started has a walker with a program to work on. -/
structure Ready (bench : Workbench Walker Gauge) (committed : Bool) : Prop where
  scheduled : Scheduled bench.frameLoop
  phase : bench.frameLoop.phase = .unstarted ↔ committed = false
  calm : bench.frameLoop.phase ≠ .stepping
  working : ∃ program, Working program (bench.machine, bench.board) ∧
    (committed = true → program.isSome = true)

variable {bench : Workbench Walker Gauge} {committed : Bool}

theorem ready_grants (ready : bench.Ready committed)
    (started : bench.frameLoop.phase ≠ .unstarted) :
    ∃ advanced, bench.machine.advance = .ok advanced := by
  obtain ⟨program, ⟨carries, -⟩, present⟩ := ready.working
  have after : committed = true := by
    cases committed with
    | false => exact absurd (ready.phase.mpr rfl) started
    | true => rfl
  obtain ⟨bytes, rfl⟩ := Option.isSome_iff_exists.mp (present after)
  exact Walker.advance_succeeds carries

theorem granted_attempt {advanced : Walker} (granted : bench.machine.advance = .ok advanced)
    {turn : Turn Walker Gauge}
    (reported : ∃ report, turn.report = some report ∧ report.failures = 0)
    (quiet : turn.notices = []) :
    Attempt.Completed
      { window := bench.frameLoop.window, machine := bench.machine, turn := turn } where
  stepped := by rw [Walker.advance_granted granted]
  photographed := by
    rw [Walker.advance_granted granted]
    exact advanced.snapshot_succeeds bench.frameLoop.window
  reported := reported
  quiet := quiet

theorem attempted_completed (ready : bench.Ready committed) (call : LoopCall) :
    ∀ attempt ∈ bench.attempted? call, attempt.Completed := by
  obtain ⟨program, ⟨-, held, displays⟩, -⟩ := ready.working
  intro attempt member
  cases call with
  | frame =>
      simp only [attempted?] at member
      split at member
      · next running =>
          cases member
          obtain ⟨advanced, granted⟩ := ready_grants ready (by rw [running]; nofun)
          have worked := iterate_completed granted displays
            { bench.frameLoop with requested := false }
          apply granted_attempt granted
          all_goals rw [frame_running bench.frameLoop running (ready.scheduled.running running)]
          · exact worked.1
          · exact worked.2
      · cases member
  | step =>
      simp only [attempted?] at member
      split at member
      · next paused =>
          cases member
          obtain ⟨advanced, granted⟩ := ready_grants ready (by rw [paused]; nofun)
          have worked := iterate_completed granted displays
            { bench.frameLoop with phase := .stepping }
          apply granted_attempt granted
          all_goals simp only [FrameLoop.step, paused]
          · exact worked.1
          · exact worked.2
      · cases member
  | start => cases member
  | togglePause => cases member

theorem works_of_attempted (bench : Workbench Walker Gauge) (call : LoopCall) :
    (bench.attempted? call).toList.length = (bench.frameLoop.phase.works call).toNat := by
  unfold attempted?
  cases call <;> cases bench.frameLoop.phase <;> rfl

/-- Every attempt is counted, since all of them are completed. -/
theorem attempted_counted (ready : bench.Ready committed) (call : LoopCall) :
    (bench.call call).frameLoop.iterations =
      bench.frameLoop.iterations + (bench.attempted? call).toList.length := by
  rw [works_of_attempted, (call_follows bench ready.scheduled call).counted]
  congr 1
  cases works : bench.frameLoop.phase.works call with
  | false => rfl
  | true =>
      have started : bench.frameLoop.phase ≠ .unstarted := by
        intro unstarted
        rw [unstarted] at works
        cases call <;> cases works
      obtain ⟨advanced, granted⟩ := ready_grants ready started
      simp only [Bool.toNat_true, completions, granted_completes granted, Nat.add_zero]

theorem call_ready (ready : bench.Ready committed) {call : LoopCall} (notStart : call ≠ .start) :
    (bench.call call).Ready committed := by
  have follows := call_follows bench ready.scheduled call
  constructor
  · exact follows.scheduled
  · rw [follows.phase, ← ready.phase]
    cases call with
    | start => exact absurd rfl notStart
    | _ => cases bench.frameLoop.phase <;> simp [Phase.next]
  · rw [follows.phase]
    exact phases_never_stepping _ ready.calm [call]
  · obtain ⟨program, working, present⟩ := ready.working
    refine ⟨program, ?_, present⟩
    rw [follows.work]
    exact Function.Iterate.rec (Working program) working (fun _ => round_working _) _

theorem keys_ready (ready : bench.Ready committed) (edges : List KeyEdge) :
    (bench.act (.keys edges)).Ready committed := by
  obtain ⟨program, ⟨carries, displays⟩, present⟩ := ready.working
  exact ⟨ready.scheduled, ready.phase, ready.calm, program,
    ⟨Walker.hearAll_carries carries edges, displays⟩, present⟩

/-- The start of a loop is no work. -/
theorem start_rests (phase : Phase) : phase.works .start = false := by
  cases phase <;> rfl

theorem phase_started (phase : Phase) : phase.next .start ≠ .unstarted := by
  cases phase <;> nofun

/-- What is left on the bench by a program that the walker takes. -/
structure Installed (bench : Workbench Walker Gauge) (program : LoadedProgram)
    (after : Workbench Walker Gauge) : Prop where
  scheduled : Scheduled after.frameLoop
  phase : after.frameLoop.phase = bench.frameLoop.phase.next .start
  counted : after.frameLoop.iterations = bench.frameLoop.iterations
  machine : after.machine = (Walker.given program.bytes).withKeys bench.machine.keys
  displays : ∃ snapshot, after.board.Displays snapshot

theorem install_fits (ready : bench.Ready committed) {program : LoadedProgram}
    (fits : program.bytes.size ≤ Memory.capacity) :
    bench.commit? (.install program) = some program ∧
      bench.Installed program (bench.act (.install program)) := by
  obtain ⟨earlier, ⟨carries, held, displays⟩, -⟩ := ready.working
  obtain ⟨taken, installed⟩ := install_granted (Walker.load_fits carries fits)
  refine ⟨taken, ?_⟩
  rw [installed]
  -- With its memory in sight, unification would compute all of its bytes.
  generalize known : (Walker.given program.bytes).withKeys bench.machine.keys = loaded
  let given : Workbench Walker Gauge := { bench with machine := loaded }
  obtain ⟨snapshot, -, refreshed⟩ := given.refresh_shown
  have follows : given.refresh.Follows .start := refreshed_start ready.scheduled
  have work := follows.work
  have counted := follows.counted
  rw [start_rests] at work counted
  obtain ⟨machine, board⟩ := Prod.mk.inj work
  have keptMachine : given.refresh.machine = loaded := by rw [refreshed]
  have keptBoard : given.refresh.board = (bench.board.syncAll snapshot).board := by rw [refreshed]
  constructor
  · exact follows.scheduled
  · exact follows.phase.trans (by rw [refresh_frameLoop])
  · exact counted.trans (by rw [refresh_frameLoop]; rfl)
  · exact machine.trans (keptMachine.trans known.symm)
  · exact ⟨snapshot, board.trans keptBoard ▸ Board.syncAll_displays displays snapshot⟩

/-- The first program that the walker takes starts the loop, and a later one leaves it in its
phase. -/
theorem install_ready (ready : bench.Ready committed) (program : LoadedProgram) :
    (bench.act (.install program)).Ready
        (committed || (bench.commit? (.install program)).isSome) ∧
      (bench.act (.install program)).frameLoop.iterations = bench.frameLoop.iterations := by
  by_cases fits : program.bytes.size ≤ Memory.capacity
  · obtain ⟨taken, installed⟩ := install_fits ready fits
    rw [taken, Option.isSome_some, Bool.or_true]
    have working : Working (some program.bytes)
        ((bench.act (.install program)).machine, (bench.act (.install program)).board) := by
      rw [installed.machine]
      exact ⟨Walker.given_carries fits _, installed.displays⟩
    refine ⟨⟨installed.scheduled, ?_, ?_, some program.bytes, working, fun _ => rfl⟩,
      installed.counted⟩
    · rw [installed.phase]
      exact iff_of_false (phase_started _) nofun
    · rw [installed.phase]
      exact phases_never_stepping _ ready.calm [.start]
  · obtain ⟨refused, unchanged⟩ :=
      install_refused (bench.machine.load_too_large (Nat.lt_of_not_le fits))
    rw [refused, unchanged, Option.isSome_none, Bool.or_false]
    exact ⟨ready, rfl⟩

theorem act_ready (ready : bench.Ready committed) (act : BenchAct) :
    (bench.act act).Ready (committed || (bench.commit? act).isSome) := by
  cases act with
  | loop call notStart => exact (Bool.or_false committed).symm ▸ call_ready ready notStart
  | keys edges => exact (Bool.or_false committed).symm ▸ keys_ready ready edges
  | install program => exact (install_ready ready program).1

theorem acts_ready (ready : bench.Ready committed) (acts : List BenchAct) :
    (acts.foldl act bench).Ready (committed || !(bench.commits acts).isEmpty) := by
  have act_keeps : ∀ (bench : Workbench Walker Gauge) committed act, bench.Ready committed →
      (bench.act act).Ready (committed || (bench.commit? act).isSome) :=
    fun _ _ act ready => act_ready ready act
  exact acts_keep act_keeps ready acts

theorem act_attempts (ready : bench.Ready committed) (act : BenchAct) :
    (∀ attempt ∈ bench.attempt? act, attempt.Completed) ∧
      (bench.act act).frameLoop.iterations =
        bench.frameLoop.iterations + (bench.attempt? act).toList.length := by
  cases act with
  | loop call notStart =>
      exact ⟨attempted_completed ready call, attempted_counted ready call⟩
  | keys edges => exact ⟨fun _ absent => absurd absent (Option.not_mem_none _), rfl⟩
  | install program =>
      exact ⟨fun _ absent => absurd absent (Option.not_mem_none _),
        (install_ready ready program).2⟩

theorem acts_attempts (ready : bench.Ready committed) (acts : List BenchAct) :
    (∀ attempt ∈ bench.attempts acts, attempt.Completed) ∧
      (acts.foldl act bench).frameLoop.iterations =
        bench.frameLoop.iterations + (bench.attempts acts).length := by
  induction acts generalizing bench committed with
  | nil => exact ⟨fun _ absent => absurd absent List.not_mem_nil, rfl⟩
  | cons first later ih =>
      obtain ⟨completed, counted⟩ := act_attempts ready first
      obtain ⟨allCompleted, total⟩ := ih (act_ready ready first)
      constructor
      · intro attempt member
        rcases List.mem_append.mp member with now | afterwards
        · exact completed attempt (Option.mem_toList.mp now)
        · exact allCompleted attempt afterwards
      · show (later.foldl act (bench.act first)).frameLoop.iterations = _
        rw [total, counted, attempts, List.length_append, Nat.add_assoc]

end Workbench

theorem make_ready (past : List MachineCall) (settings : Settings) (threshold : Log.Threshold) :
    (Inspector.make (Machine.replay Walker.fresh past) settings threshold).bench.Ready false where
  scheduled := Workbench.fresh_scheduled settings.window
  phase := iff_of_true rfl rfl
  calm := nofun
  working :=
    ⟨_, ⟨Walker.replay_carries Walker.fresh_carries past, .blank, Board.standard_displays⟩, nofun⟩

/-- For a walker with any past, any settings and everything that can happen to an inspector of it:
the loop is unstarted as long as no program was committed, every frame that the loop sets about is
completed, and the count of frames is the number of these. -/
theorem every_frame_completed (past : List MachineCall) (settings : Settings)
    (threshold : Log.Threshold) (events : List InspectorEvent) :
    let inspector := Inspector.make (Machine.replay Walker.fresh past) settings threshold
    let live := inspector.live events
    (live.frameLoop.phase = .unstarted ↔ inspector.commits events = []) ∧
      (∀ attempt ∈ inspector.attempts events, attempt.Completed) ∧
      live.frameLoop.iterations = (inspector.attempts events).length := by
  intro inspector live
  have ready : inspector.bench.Ready false := make_ready past settings threshold
  have finished := Workbench.acts_ready ready (inspector.acts events)
  obtain ⟨completed, counted⟩ := Workbench.acts_attempts ready (inspector.acts events)
  rw [← Inspector.live_bench] at finished counted
  rw [Inspector.acts_attempts] at completed counted
  refine ⟨?_, completed, counted.trans (Nat.zero_add _)⟩
  rw [Inspector.acts_commits] at finished
  exact finished.phase.trans (by simp)

end Chip8Inspector
