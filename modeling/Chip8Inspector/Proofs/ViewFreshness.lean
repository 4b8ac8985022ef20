import Chip8Inspector.Proofs.BoardView
import Chip8Inspector.Proofs.InspectorHistory
import Chip8Inspector.Proofs.WalkerAnswers

/-!
# The view is never stale

The walker changes in a step of the loop, at a commit and with the keys. Keys are in no snapshot,
a refused step changes nothing, and behind the other two the board is given the snapshot of the
walker as it then is. A walker can always be photographed, so that this snapshot is never missing.
-/

namespace Chip8Inspector

set_option autoImplicit false

def ShowsNow (window : Window) (walker : Walker) (board : Board Gauge) : Prop :=
  ∃ snapshot, walker.snapshot window = .ok snapshot ∧ board.Displays snapshot

theorem syncAll_showsNow {window : Window} {walker : Walker} {board : Board Gauge}
    {held snapshot : Snapshot} (displays : board.Displays held)
    (taken : walker.snapshot window = .ok snapshot) :
    ShowsNow window walker (board.syncAll snapshot).board :=
  ⟨snapshot, taken, Board.syncAll_displays displays snapshot⟩

theorem round_refused {walker : Walker} {cause : MachineError}
    (refused : walker.advance = .error cause) (window : Window) (board : Board Gauge) :
    round window (walker, board) = (walker, board) := by
  simp only [round, Walker.advance_refused refused]

/-- A step that the walker makes is always followed by a snapshot. -/
theorem round_granted {walker advanced : Walker} (granted : walker.advance = .ok advanced)
    (window : Window) (board : Board Gauge) :
    ∃ snapshot, advanced.snapshot window = .ok snapshot ∧
      round window (walker, board) = (advanced, (board.syncAll snapshot).board) := by
  obtain ⟨snapshot, taken⟩ := advanced.snapshot_succeeds window
  refine ⟨snapshot, taken, ?_⟩
  simp only [round, Walker.advance_granted granted, Walker.machine_snapshot, taken]

/-- A round of work ends in a new snapshot on the board, or in a walker that is the same as
before. -/
theorem round_showsNow {window : Window} {walker : Walker} {board : Board Gauge}
    (shows : ShowsNow window walker board) :
    ShowsNow window (round window (walker, board)).1 (round window (walker, board)).2 := by
  cases stepped : walker.advance with
  | error cause =>
      rw [round_refused stepped]
      exact shows
  | ok advanced =>
      rcases shows with ⟨held, -, displays⟩
      obtain ⟨snapshot, taken, worked⟩ := round_granted stepped window board
      rw [worked]
      dsimp only
      exact syncAll_showsNow displays taken

theorem rounds_showsNow {window : Window} (count : Nat) {walker : Walker} {board : Board Gauge}
    (shows : ShowsNow window walker board) :
    let pair := (round window)^[count] (walker, board)
    ShowsNow window pair.1 pair.2 := by
  induction count generalizing walker board with
  | zero => exact shows
  | succ count ih => exact ih (round_showsNow shows)

namespace Workbench

/-- Before the first commit the board is as it was made and the loop stands still; from then on
the board shows the walker as it is now. -/
def Current (bench : Workbench Walker Gauge) : Bool → Prop
  | false => bench.frameLoop.phase = .unstarted ∧ bench.board.Displays .blank
  | true => ShowsNow bench.frameLoop.window bench.machine bench.board

theorem current_displays {bench : Workbench Walker Gauge} {committed : Bool}
    (current : bench.Current committed) : ∃ held, bench.board.Displays held := by
  cases committed with
  | false => exact ⟨.blank, current.2⟩
  | true =>
      rcases current with ⟨held, -, displays⟩
      exact ⟨held, displays⟩

/-- A call works on the machine only in a loop that was started. -/
theorem call_current {bench : Workbench Walker Gauge} (scheduled : Scheduled bench.frameLoop)
    {committed : Bool} (current : bench.Current committed) {call : LoopCall}
    (notStart : call ≠ .start) : (bench.call call).Current committed := by
  have follows := call_follows bench scheduled call
  have work := follows.work
  cases committed with
  | false =>
      rcases current with ⟨unstarted, displays⟩
      rw [unstarted] at work
      have rests : Phase.next .unstarted call = .unstarted ∧
          Phase.works .unstarted call = false := by
        cases call with
        | start => exact absurd rfl notStart
        | togglePause => exact ⟨rfl, rfl⟩
        | step => exact ⟨rfl, rfl⟩
        | frame => exact ⟨rfl, rfl⟩
      rw [rests.2] at work
      have sameBoard : (bench.call call).board = bench.board := congrArg Prod.snd work
      refine ⟨?_, ?_⟩
      · rw [follows.phase, unstarted]
        exact rests.1
      · rw [sameBoard]
        exact displays
  | true =>
      have shows := rounds_showsNow (bench.frameLoop.phase.works call).toNat current
      rw [← work] at shows
      unfold Current
      rw [follows.window]
      exact shows

theorem refresh_shown (bench : Workbench Walker Gauge) :
    ∃ snapshot, bench.machine.snapshot bench.frameLoop.window = .ok snapshot ∧
      bench.refresh = { bench with board := (bench.board.syncAll snapshot).board } := by
  obtain ⟨snapshot, taken⟩ := bench.machine.snapshot_succeeds bench.frameLoop.window
  refine ⟨snapshot, taken, ?_⟩
  simp only [refresh, Walker.machine_snapshot, taken]

theorem refresh_showsNow {bench : Workbench Walker Gauge} {held : Snapshot}
    (displays : bench.board.Displays held) :
    ShowsNow bench.frameLoop.window bench.refresh.machine bench.refresh.board := by
  obtain ⟨snapshot, taken, refreshed⟩ := bench.refresh_shown
  rw [refreshed]
  dsimp only
  exact syncAll_showsNow displays taken

theorem install_refused {bench : Workbench Walker Gauge} {program : LoadedProgram}
    {cause : MachineError} (refused : bench.machine.load program.bytes = .error cause) :
    bench.commit? (.install program) = none ∧ bench.act (.install program) = bench := by
  constructor
  · simp only [commit?, Machine.taken?, Walker.load_refused refused]
  · simp only [act, install, Walker.load_refused refused]

theorem install_granted {bench : Workbench Walker Gauge} {program : LoadedProgram}
    {loaded : Walker} (granted : bench.machine.load program.bytes = .ok loaded) :
    bench.commit? (.install program) = some program ∧
      bench.act (.install program) = (refresh { bench with machine := loaded }).call .start := by
  constructor
  · simp only [commit?, Machine.taken?, Walker.load_granted granted]
  · simp only [act, install, Walker.load_granted granted]

/-- A program that the walker takes is shown at once, whatever was on the board before. One that
it does not take leaves everything as it was. -/
theorem install_current {bench : Workbench Walker Gauge} (scheduled : Scheduled bench.frameLoop)
    {committed : Bool} (current : bench.Current committed) (program : LoadedProgram) :
    (bench.act (.install program)).Current
      (committed || (bench.commit? (.install program)).isSome) := by
  cases loaded : bench.machine.load program.bytes with
  | error cause =>
      obtain ⟨refused, unchanged⟩ := install_refused loaded
      rw [refused, unchanged, Option.isSome_none, Bool.or_false]
      exact current
  | ok machine =>
      let given : Workbench Walker Gauge := { bench with machine := machine }
      obtain ⟨taken, installed⟩ := install_granted loaded
      rw [taken, installed, Option.isSome_some, Bool.or_true]
      obtain ⟨held, displays⟩ := current_displays current
      have started : (given.refresh.call .start).frameLoop.window = given.frameLoop.window := by
        have givenScheduled : Scheduled given.frameLoop := scheduled
        rw [(refreshed_start givenScheduled).window, refresh_frameLoop]
      have shows : ShowsNow given.frameLoop.window given.refresh.machine given.refresh.board :=
        refresh_showsNow displays
      unfold Current
      rw [started]
      exact shows

theorem act_current {bench : Workbench Walker Gauge} (scheduled : Scheduled bench.frameLoop)
    {committed : Bool} (current : bench.Current committed) (act : BenchAct) :
    (bench.act act).Current (committed || (bench.commit? act).isSome) := by
  cases act with
  | loop call notStart =>
      have uncommitted : bench.commit? (.loop call notStart) = none := rfl
      rw [uncommitted, Option.isSome_none, Bool.or_false]
      exact call_current scheduled current notStart
  | keys edges =>
      have uncommitted : bench.commit? (.keys edges) = none := rfl
      rw [uncommitted, Option.isSome_none, Bool.or_false]
      cases committed with
      | false => exact current
      | true =>
          rcases current with ⟨snapshot, taken, displays⟩
          exact ⟨snapshot, (bench.machine.snapshot_hearAll edges _).trans taken, displays⟩
  | install program => exact install_current scheduled current program

theorem acts_current {bench : Workbench Walker Gauge} (scheduled : Scheduled bench.frameLoop)
    {committed : Bool} (current : bench.Current committed) (acts : List BenchAct) :
    (acts.foldl act bench).Current (committed || !(bench.commits acts).isEmpty) := by
  have act_keeps : ∀ (bench : Workbench Walker Gauge) committed act,
      Scheduled bench.frameLoop ∧ bench.Current committed →
        Scheduled (bench.act act).frameLoop ∧
          (bench.act act).Current (committed || (bench.commit? act).isSome) :=
    fun _ _ act kept => ⟨(act_scheduled kept.1 act).1, act_current kept.1 kept.2 act⟩
  exact (acts_keep act_keeps ⟨scheduled, current⟩ acts).2

end Workbench

/-- For any settings and everything that can happen to an inspector of a new walker: as long as
no program was committed, the board looks as it was made, and from the first commit on it looks as
a new board that was given one snapshot, that of the walker as it is at that moment. -/
theorem view_never_stale (settings : Settings) (threshold : Log.Threshold)
    (events : List InspectorEvent) :
    let inspector := Inspector.make Walker.fresh settings threshold
    let live := inspector.live events
    if inspector.commits events = [] then live.board.looks = Board.standard.looks
    else
      ∃ snapshot, live.machine.snapshot settings.window = .ok snapshot ∧
        live.board.looks = (Board.standard.syncAll snapshot).board.looks := by
  intro inspector live
  have scheduled : Workbench.Scheduled inspector.bench.frameLoop :=
    Workbench.fresh_scheduled settings.window
  have untouched : inspector.bench.Current false := ⟨rfl, Board.standard_displays⟩
  have current := Workbench.acts_current scheduled untouched (inspector.acts events)
  have window := (Workbench.acts_scheduled scheduled (inspector.acts events)).2
  rw [← Inspector.live_bench, Inspector.acts_commits] at current
  rw [← Inspector.live_bench] at window
  by_cases none : inspector.commits events = []
  · rw [if_pos none]
    rw [none] at current
    have displays : live.board.Displays .blank := current.2
    exact (Board.displayed_looks displays).trans
      (Board.displayed_looks Board.standard_displays).symm
  · rw [if_neg none]
    have some : (inspector.commits events).isEmpty = false := by
      simpa using none
    rw [some] at current
    rcases current with ⟨snapshot, taken, displays⟩
    rw [window] at taken
    refine ⟨snapshot, taken, ?_⟩
    exact (Board.displayed_looks displays).trans
      (Board.displayed_looks (Board.syncAll_displays Board.standard_displays snapshot)).symm

end Chip8Inspector
