import Chip8Inspector.Inspector
import Chip8Inspector.Proofs.FrameLoopRuns

/-!
# Histories of the inspector

Whatever happens to an inspector reaches the machine, the board and the frame loop in three ways
only: a call of the loop, key edges, or a program to be installed. A history of the inspector is
therefore a row of such acts on the workbench inside it, and what every act preserves holds after
every history.
-/

namespace Chip8Inspector

set_option autoImplicit false

/-- All that can happen to an inspector. A wait that lasts while files arrive is a row of waits
with the arrivals between them. -/
inductive InspectorEvent where
  | command (command : Command)
  | tick
  | wait
  | arrival (generation : Nat) (contents : Except FileError Program)
  | catalogFile (path : String) (contents : Except FileError Program)
  | catalog (catalog : Catalog)
  | select (index : Nat)

/-- What an event can do to a workbench. Only a new program starts the loop. -/
inductive BenchAct where
  | loop (call : LoopCall) (notStart : call ≠ .start)
  | keys (edges : List KeyEdge)
  | install (program : LoadedProgram)

/-- The program, if the machine takes it. -/
def Machine.taken? {M : Type} [Machine M] (machine : M) (program : LoadedProgram) :
    Option LoadedProgram :=
  match (Machine.load machine program.bytes).1 with
  | .ok () => some program
  | .error _ => none

namespace Workbench

variable {M : Type} [Machine M]

def refresh (bench : Workbench M Gauge) : Workbench M Gauge :=
  match Machine.snapshot bench.machine bench.frameLoop.window with
  | (.error _, machine) => { bench with machine := machine }
  | (.ok snapshot, machine) =>
      { bench with machine := machine, board := (bench.board.syncAll snapshot).board }

/-- Gives the machine a program. One that it takes is shown, and starts the loop. -/
def install (bench : Workbench M Gauge) (program : Program) : Workbench M Gauge :=
  match Machine.load bench.machine program with
  | (.error _, machine) => { bench with machine := machine }
  | (.ok (), machine) => (refresh { bench with machine := machine }).call .start

def act (bench : Workbench M Gauge) : BenchAct → Workbench M Gauge
  | .loop call _ => bench.call call
  | .keys edges => { bench with machine := Machine.hearAll bench.machine edges }
  | .install program => bench.install program.bytes

def commit? (bench : Workbench M Gauge) : BenchAct → Option LoadedProgram
  | .install program => Machine.taken? bench.machine program
  | _ => none

def commits (bench : Workbench M Gauge) : List BenchAct → List LoadedProgram
  | [] => []
  | act :: later => (bench.commit? act).toList ++ (bench.act act).commits later

theorem commits_append (bench : Workbench M Gauge) (earlier later : List BenchAct) :
    bench.commits (earlier ++ later) =
      bench.commits earlier ++ (earlier.foldl act bench).commits later := by
  induction earlier generalizing bench with
  | nil => rfl
  | cons first rest ih =>
      simp only [List.cons_append, commits, List.foldl_cons]
      rw [ih, List.append_assoc]

theorem refresh_frameLoop (bench : Workbench M Gauge) :
    bench.refresh.frameLoop = bench.frameLoop := by
  unfold refresh
  split <;> rfl

theorem refreshed_start {bench : Workbench M Gauge} (scheduled : Scheduled bench.frameLoop) :
    bench.refresh.Follows .start := by
  apply call_follows
  rw [refresh_frameLoop]
  exact scheduled

/-- Acts neither change the window nor lose a frame that a running loop has asked for. -/
theorem act_scheduled {bench : Workbench M Gauge} (scheduled : Scheduled bench.frameLoop)
    (act : BenchAct) :
    Scheduled (bench.act act).frameLoop ∧
      (bench.act act).frameLoop.window = bench.frameLoop.window := by
  cases act with
  | loop call notStart =>
      have follows := call_follows bench scheduled call
      exact ⟨follows.scheduled, follows.window⟩
  | keys edges => exact ⟨scheduled, rfl⟩
  | install program =>
      show Scheduled (bench.install program.bytes).frameLoop ∧
        (bench.install program.bytes).frameLoop.window = bench.frameLoop.window
      unfold install
      rcases Machine.load bench.machine program.bytes with ⟨outcome, machine⟩
      cases outcome with
      | error cause => exact ⟨scheduled, rfl⟩
      | ok _ =>
          let given : Workbench M Gauge := { bench with machine := machine }
          have givenScheduled : Scheduled given.frameLoop := scheduled
          have started := refreshed_start givenScheduled
          exact ⟨started.scheduled, started.window.trans (by rw [refresh_frameLoop])⟩

theorem acts_scheduled {bench : Workbench M Gauge} (scheduled : Scheduled bench.frameLoop)
    (acts : List BenchAct) :
    Scheduled (acts.foldl act bench).frameLoop ∧
      (acts.foldl act bench).frameLoop.window = bench.frameLoop.window := by
  induction acts generalizing bench with
  | nil => exact ⟨scheduled, rfl⟩
  | cons act later ih =>
      have first := act_scheduled scheduled act
      have rest := ih first.1
      exact ⟨rest.1, rest.2.trans first.2⟩

/-- What every act keeps holds after a row of acts, also when it says something else once a program
was committed. -/
theorem acts_keep {Kept : Workbench M Gauge → Bool → Prop}
    (act_keeps : ∀ bench committed act, Kept bench committed →
      Kept (bench.act act) (committed || (bench.commit? act).isSome))
    {bench : Workbench M Gauge} {committed : Bool} (kept : Kept bench committed)
    (acts : List BenchAct) :
    Kept (acts.foldl act bench) (committed || !(bench.commits acts).isEmpty) := by
  induction acts generalizing bench committed with
  | nil => exact (Bool.or_false committed).symm ▸ kept
  | cons first later ih =>
      have stepped := ih (act_keeps bench committed first kept)
      have counted : (committed || (bench.commit? first).isSome ||
          !((bench.act first).commits later).isEmpty) =
          (committed || !(bench.commits (first :: later)).isEmpty) := by
        show _ = (committed || !((bench.commit? first).toList ++
          (bench.act first).commits later).isEmpty)
        cases bench.commit? first <;> simp
      rw [counted] at stepped
      exact stepped

end Workbench

namespace Inspector

variable {M : Type}

def bench (inspector : Inspector M) : Workbench M Gauge where
  frameLoop := inspector.frameLoop
  machine := inspector.machine
  board := inspector.board

variable [Machine M]

def after (inspector : Inspector M) : InspectorEvent → Inspector M
  | .command command => inspector.handle command
  | .tick => inspector.tick
  | .wait => inspector.waitForLoad.2
  | .arrival generation contents => inspector.complete generation contents
  | .catalogFile path contents => (inspector.loadCatalog path contents).2
  | .catalog catalog => inspector.installCatalog catalog
  | .select index => (inspector.select index).2

def live (inspector : Inspector M) (events : List InspectorEvent) : Inspector M :=
  events.foldl after inspector

def handed? (inspector : Inspector M) :
    InspectorEvent → Option (Except LoadError LoadedProgram)
  | .tick => inspector.chooser.poll.1
  | .wait => inspector.chooser.wait.1
  | _ => none

def installs : Option (Except LoadError LoadedProgram) → List BenchAct
  | some (.ok program) => [.install program]
  | _ => []

def actsOf (inspector : Inspector M) : InspectorEvent → List BenchAct
  | .command (.keyDown key) => [.keys (inspector.keypad.keyDown key).2]
  | .command (.keyUp key) => [.keys (inspector.keypad.keyUp key).2]
  | .command .togglePause => [.loop .togglePause nofun]
  | .command .step => [.loop .step nofun]
  | .tick =>
      installs (inspector.handed? .tick) ++
        [.keys inspector.keypad.tick.2, .loop .frame nofun]
  | .wait => installs (inspector.handed? .wait)
  | _ => []

def acts (inspector : Inspector M) : List InspectorEvent → List BenchAct
  | [] => []
  | event :: later => inspector.actsOf event ++ (inspector.after event).acts later

/-- The program that an event commits: handed out by the loader, and taken by the machine. -/
def committed? (inspector : Inspector M) (event : InspectorEvent) : Option LoadedProgram :=
  match inspector.handed? event with
  | some (.ok program) => Machine.taken? inspector.machine program
  | _ => none

/-- The programs that were committed in a history, oldest first. -/
def commits (inspector : Inspector M) : List InspectorEvent → List LoadedProgram
  | [] => []
  | event :: later =>
      (inspector.committed? event).toList ++ (inspector.after event).commits later

theorem refresh_bench (inspector : Inspector M) :
    inspector.refresh.bench = inspector.bench.refresh := by
  unfold refresh Workbench.refresh bench
  dsimp only
  rcases Machine.snapshot inspector.machine inspector.frameLoop.window with ⟨answer, machine⟩
  cases answer with
  | error cause => rfl
  | ok snapshot =>
      dsimp only
      generalize inspector.board.syncAll snapshot = synced
      rfl

theorem commit_bench (inspector : Inspector M) (outcome : Except LoadError LoadedProgram) :
    (inspector.commit outcome).bench =
      (installs (some outcome)).foldl Workbench.act inspector.bench := by
  cases outcome with
  | error cause => rfl
  | ok program =>
      show _ = inspector.bench.install program.bytes
      unfold commit Workbench.install bench
      dsimp only
      rcases Machine.load inspector.machine program.bytes with ⟨answer, machine⟩
      cases answer with
      | error cause => rfl
      | ok _ =>
          exact congrArg (fun bench => Workbench.call bench .start) (refresh_bench _)

/-- A commit leaves alone whatever does not show or run programs. -/
theorem commit_frame (inspector : Inspector M) (outcome : Except LoadError LoadedProgram) :
    ∃ machine board frameLoop journal, inspector.commit outcome =
      { inspector with
        machine := machine
        board := board
        frameLoop := frameLoop
        journal := journal } := by
  cases outcome with
  | error cause => exact ⟨_, _, _, _, rfl⟩
  | ok program =>
      unfold commit
      dsimp only
      rcases Machine.load inspector.machine program.bytes with ⟨answer, machine⟩
      cases answer with
      | error cause => exact ⟨_, _, _, _, rfl⟩
      | ok _ =>
          dsimp only
          unfold refresh
          split <;> exact ⟨_, _, _, _, rfl⟩

/-- Of what a tick takes, the chooser knows that it is gone; the rest is a commit. -/
theorem takeArrival_frame (inspector : Inspector M) :
    ∃ machine board frameLoop journal, inspector.takeArrival =
      { inspector with
        machine := machine
        board := board
        frameLoop := frameLoop
        chooser := inspector.chooser.poll.2.1
        journal := journal } := by
  unfold takeArrival
  rcases inspector.chooser.poll with ⟨outcome, chooser, notices⟩
  cases outcome with
  | none => exact ⟨_, _, _, _, rfl⟩
  | some outcome => exact (inspector.withChooser chooser notices).commit_frame outcome

theorem wait_frame (inspector : Inspector M) :
    ∃ machine board frameLoop journal, inspector.waitForLoad.2 =
      { inspector with
        machine := machine
        board := board
        frameLoop := frameLoop
        chooser := inspector.chooser.wait.2.1
        journal := journal } := by
  unfold waitForLoad
  rcases inspector.chooser.wait with ⟨outcome, chooser, notices⟩
  cases outcome with
  | none => exact ⟨_, _, _, _, rfl⟩
  | some outcome => exact (inspector.withChooser chooser notices).commit_frame outcome

theorem takeArrival_bench (inspector : Inspector M) :
    inspector.takeArrival.bench =
        (installs (inspector.handed? .tick)).foldl Workbench.act inspector.bench ∧
      inspector.takeArrival.keypad = inspector.keypad := by
  constructor
  · unfold takeArrival handed?
    rcases inspector.chooser.poll with ⟨outcome, chooser, notices⟩
    cases outcome with
    | none => rfl
    | some outcome => exact commit_bench _ outcome
  · obtain ⟨machine, board, frameLoop, journal, taken⟩ := inspector.takeArrival_frame
    rw [taken]

theorem tick_bench (inspector : Inspector M) :
    inspector.tick.bench = (inspector.actsOf .tick).foldl Workbench.act inspector.bench := by
  obtain ⟨taken, keypad⟩ := takeArrival_bench inspector
  unfold actsOf
  rw [List.foldl_append, ← taken, ← keypad]
  rfl

theorem wait_bench (inspector : Inspector M) :
    inspector.waitForLoad.2.bench =
      (inspector.actsOf .wait).foldl Workbench.act inspector.bench := by
  unfold waitForLoad actsOf handed?
  rcases inspector.chooser.wait with ⟨outcome, chooser, notices⟩
  cases outcome with
  | none => rfl
  | some outcome => exact commit_bench _ outcome

theorem wait_keypad (inspector : Inspector M) :
    inspector.waitForLoad.2.keypad = inspector.keypad := by
  obtain ⟨machine, board, frameLoop, journal, waited⟩ := inspector.wait_frame
  rw [waited]

theorem after_bench (inspector : Inspector M) (event : InspectorEvent) :
    (inspector.after event).bench =
      (inspector.actsOf event).foldl Workbench.act inspector.bench := by
  cases event with
  | command command => cases command <;> rfl
  | tick => exact tick_bench inspector
  | wait => exact wait_bench inspector
  | arrival generation contents => rfl
  | catalogFile path contents => rfl
  | catalog catalog => rfl
  | select index => rfl

theorem live_bench (inspector : Inspector M) (events : List InspectorEvent) :
    (inspector.live events).bench =
      (inspector.acts events).foldl Workbench.act inspector.bench := by
  induction events generalizing inspector with
  | nil => rfl
  | cons event later ih =>
      unfold acts
      rw [List.foldl_append, ← after_bench]
      exact ih (inspector.after event)

theorem installs_commits (bench : Workbench M Gauge)
    (handed : Option (Except LoadError LoadedProgram)) :
    bench.commits (installs handed) =
      (match handed with
        | some (.ok program) => Machine.taken? bench.machine program
        | _ => none).toList := by
  cases handed with
  | none => rfl
  | some outcome =>
      cases outcome with
      | error cause => rfl
      | ok program => exact List.append_nil _

theorem actsOf_commits (inspector : Inspector M) (event : InspectorEvent) :
    inspector.bench.commits (inspector.actsOf event) =
      (inspector.committed? event).toList := by
  cases event with
  | command command => cases command <;> rfl
  | tick =>
      unfold actsOf
      rw [Workbench.commits_append, installs_commits]
      exact List.append_nil _
  | wait => exact installs_commits _ _
  | arrival generation contents => rfl
  | catalogFile path contents => rfl
  | catalog catalog => rfl
  | select index => rfl

/-- A history commits what the acts in it commit. -/
theorem acts_commits (inspector : Inspector M) (events : List InspectorEvent) :
    inspector.bench.commits (inspector.acts events) = inspector.commits events := by
  induction events generalizing inspector with
  | nil => rfl
  | cons event later ih =>
      unfold acts commits
      rw [Workbench.commits_append, actsOf_commits, ← after_bench, ih]

end Inspector

end Chip8Inspector
