import Chip8Inspector.Proofs.InspectorLoads
import Chip8Inspector.Proofs.OverheardMachine
import Chip8Inspector.Proofs.ViewFreshness

/-!
# The machine runs the program that was committed last

A load can fail when its file is read, for want of bytes in the file, or at the machine, and it can
be superseded by a later one. Whatever becomes of it is settled in one place: where an inspector
takes what its loader hands it. There either a program is committed, so that the walker is as new
with the program in it, or nothing at all changes. No step is made there, and a loop that was
started already goes on as it was.
-/

namespace Chip8Inspector

set_option autoImplicit false

namespace Memory

/-- The program area holds the program and zeros behind it. -/
theorem read_holding {memory : Memory} {program : Program}
    (below : memory.SameBelowDisplay (holding program)) (fits : program.size ≤ capacity) :
    memory.read? programStart capacity =
      some (program ++ Array.replicate (capacity - program.size) 0) := by
  have inside : programStart + capacity ≤ size := by decide
  have room : programStart + capacity = stackStart := rfl
  have whole : size = 4096 := rfl
  unfold read?
  rw [if_pos inside]
  apply congrArg some
  apply Array.ext
  · simp only [Array.size_extract, Vector.size_toArray, Array.size_append, Array.size_replicate]
    omega
  · intro index here there
    simp only [Array.size_extract, Vector.size_toArray] at here
    let address : Fin 4096 := ⟨programStart + index, by omega⟩
    have low : programStart ≤ address.val := Nat.le_add_right _ _
    have high : address.val < stackStart := by
      show programStart + index < stackStart
      omega
    have byte : memory.bytes[programStart + index] = _ := byte_area below fits low high
    rw [Array.getElem_extract, Vector.getElem_toArray, byte, Nat.add_sub_cancel_left,
      Array.getElem_append]
    split
    · next early => rw [Array.getElem?_eq_getElem early, Option.getD_some]
    · next late =>
        rw [Array.getElem?_eq_none (Nat.not_lt.mp late), Option.getD_none,
          Array.getElem_replicate]

end Memory

namespace Workbench

/-- The start of the loop is nothing to the machine. -/
theorem start_eq (bench : Workbench Walker Gauge) :
    (bench.call .start).machine = bench.machine ∧
      (bench.call .start).frameLoop.iterations = bench.frameLoop.iterations ∧
      (bench.call .start).frameLoop.phase =
        if bench.frameLoop.phase = .unstarted then .running else bench.frameLoop.phase := by
  rcases bench with ⟨⟨phase, requested, window, iterations⟩, machine, board⟩
  cases phase <;> exact ⟨rfl, rfl, rfl⟩

/-- A program that is too large is refused, and the workbench stays as it was. -/
theorem install_large (bench : Workbench Walker Gauge) {program : LoadedProgram}
    (large : Memory.capacity < program.bytes.size) :
    bench.commit? (.install program) = none ∧ bench.act (.install program) = bench :=
  install_refused (bench.machine.load_too_large large)

/-- Any other is taken, and its walker is as new, except for the keys. -/
theorem install_fitting {bench : Workbench Walker Gauge} {earlier : Option Program}
    (carries : bench.machine.Carries earlier) {program : LoadedProgram}
    (fits : program.bytes.size ≤ Memory.capacity) :
    bench.commit? (.install program) = some program ∧
      ∃ board, bench.act (.install program) =
        Workbench.call
          ⟨bench.frameLoop, (Walker.given program.bytes).withKeys bench.machine.keys, board⟩
          .start := by
  obtain ⟨taken, installed⟩ := install_granted (Walker.load_fits carries fits)
  obtain ⟨snapshot, -, shown⟩ := refresh_shown
    { bench with machine := (Walker.given program.bytes).withKeys bench.machine.keys }
  rw [shown] at installed
  exact ⟨taken, _, installed⟩

/-- The walker carries the last program that was committed. -/
theorem act_carries {bench : Workbench Walker Gauge} {earlier : Option Program}
    (carries : bench.machine.Carries earlier) (act : BenchAct) :
    (bench.act act).machine.Carries
      (((bench.commit? act).map LoadedProgram.bytes).or earlier) := by
  cases act with
  | loop call notStart =>
      exact call_keeps (fun walker : Walker => walker.Carries earlier) (fun _ _ carries => carries)
        (fun _ carries => Walker.undergo_carries carries .advance) carries call
  | keys edges => exact Walker.hearAll_carries carries edges
  | install program =>
      by_cases fits : program.bytes.size ≤ Memory.capacity
      · obtain ⟨taken, board, installed⟩ := install_fitting carries fits
        rw [taken, installed, (start_eq _).1]
        exact Walker.given_carries fits bench.machine.keys
      · obtain ⟨refused, unchanged⟩ := install_large bench (Nat.lt_of_not_le fits)
        rw [refused, unchanged]
        exact carries

theorem acts_carry {bench : Workbench Walker Gauge} {earlier : Option Program}
    (carries : bench.machine.Carries earlier) (acts : List BenchAct) :
    (acts.foldl act bench).machine.Carries
      (((bench.commits acts).getLast?.map LoadedProgram.bytes).or earlier) := by
  induction acts generalizing bench earlier with
  | nil => exact carries
  | cons first later ih =>
      have rest := ih (act_carries carries first)
      rw [← Option.or_assoc, ← Option.map_or] at rest
      unfold commits
      rw [List.getLast?_append]
      cases taken : bench.commit? first <;> rw [taken] at rest <;> exact rest

end Workbench

/-- Since `earlier` the machine got other calls only, and none of them was a step. -/
def Overheard.Unstepped {M : Type} (earlier : List MachineCall) (heard : Overheard M) : Prop :=
  ∃ since, heard.calls = earlier ++ since ∧ .advance ∉ since

theorem undergo_unstepped {M : Type} [Machine M] (earlier : List MachineCall) (call : MachineCall)
    (noStep : .advance ≠ call) (heard : Overheard M) (unstepped : heard.Unstepped earlier) :
    (Machine.undergo heard call).Unstepped earlier := by
  obtain ⟨since, known, quiet⟩ := unstepped
  rw [undergo_overheard]
  refine ⟨since ++ [call], ?_, ?_⟩
  · rw [known, List.append_assoc]
  · rw [List.mem_append, List.mem_singleton, not_or]
    exact ⟨quiet, noStep⟩

namespace Inspector

theorem live_carries (settings : Settings) (threshold : Log.Threshold)
    (events : List InspectorEvent) :
    let inspector := make Walker.fresh settings threshold
    (inspector.live events).machine.Carries
      ((inspector.commits events).getLast?.map LoadedProgram.bytes) := by
  intro inspector
  have unloaded : inspector.bench.machine.Carries none := Walker.fresh_carries
  have carries := Workbench.acts_carry unloaded (inspector.acts events)
  rw [← live_bench, acts_commits, Option.or_none] at carries
  exact carries

section Receiving

variable {M : Type} [Machine M]

/-- The inspector when it has taken what an event hands it, before the keypad grows older and the
loop does its work. -/
def received (inspector : Inspector M) : InspectorEvent → Inspector M
  | .tick => inspector.takeArrival
  | .wait => inspector.waitForLoad.2
  | _ => inspector

theorem received_bench (inspector : Inspector M) (event : InspectorEvent) :
    (inspector.received event).bench =
      (installs (inspector.handed? event)).foldl Workbench.act inspector.bench := by
  cases event with
  | tick => exact (takeArrival_bench inspector).1
  | wait => exact wait_bench inspector
  | _ => rfl

theorem received_keypad (inspector : Inspector M) (event : InspectorEvent) :
    (inspector.received event).keypad = inspector.keypad := by
  cases event with
  | tick => exact (takeArrival_bench inspector).2
  | wait => exact wait_keypad inspector
  | _ => rfl

theorem received_through {N : Type} [Machine N] {view : M → N} (faithful : Faithful view)
    (inspector : Inspector M) (event : InspectorEvent) :
    (inspector.through view).received event = (inspector.received event).through view := by
  cases event with
  | tick => exact takeArrival_through faithful inspector
  | wait => exact waitForLoad_through faithful inspector
  | _ => rfl

/-- Taking what is handed out asks nothing of the machine but to load and to be photographed. -/
theorem received_unstepped (inspector : Inspector (Overheard M)) (event : InspectorEvent) :
    (inspector.received event).machine.Unstepped inspector.machine.calls := by
  have machine : (inspector.received event).machine = _ :=
    congrArg Workbench.machine (received_bench inspector event)
  have untouched : inspector.bench.machine.Unstepped inspector.machine.calls :=
    ⟨[], (List.append_nil _).symm, nofun⟩
  rw [machine]
  exact Workbench.installs_keep (Overheard.Unstepped inspector.machine.calls)
    (fun heard window => undergo_unstepped _ (.snapshot window) nofun heard)
    (fun heard bytes => undergo_unstepped _ (.load bytes) nofun heard) untouched
    (inspector.handed? event)

end Receiving

end Inspector

/-- What taking a load has done to an inspector. Only a committed program does anything, and then
the machine is as new with that program in it, except for the keys. -/
structure Received (earlier later : Inspector Walker) (committed : Option LoadedProgram) :
    Prop where
  unchanged : committed = none → later.bench = earlier.bench
  loaded : ∀ program, committed = some program →
    later.machine = (Walker.given program.bytes).withKeys earlier.machine.keys
  keypad : later.keypad = earlier.keypad
  phase : later.frameLoop.phase =
    if committed.isSome = true ∧ earlier.frameLoop.phase = .unstarted then .running
    else earlier.frameLoop.phase
  iterations : later.frameLoop.iterations = earlier.frameLoop.iterations

section Walkers

variable {inspector : Inspector Walker} {program : Option Program}

theorem received_unchanged {event : InspectorEvent}
    (unchanged : (inspector.received event).bench = inspector.bench) :
    Received inspector (inspector.received event) none where
  unchanged := fun _ => unchanged
  loaded := nofun
  keypad := inspector.received_keypad event
  phase := congrArg (fun bench => bench.frameLoop.phase) unchanged
  iterations := congrArg (fun bench => bench.frameLoop.iterations) unchanged

theorem received_load (carries : inspector.machine.Carries program) (event : InspectorEvent) :
    Received inspector (inspector.received event) (inspector.committed? event) := by
  have bench := inspector.received_bench event
  have carried : inspector.bench.machine.Carries program := carries
  unfold Inspector.committed?
  generalize inspector.handed? event = outcome at bench ⊢
  rcases outcome with none | cause | handed
  · exact received_unchanged bench
  · exact received_unchanged bench
  · have taken : inspector.bench.commit? (.install handed) =
        Machine.taken? inspector.machine handed := rfl
    dsimp only
    by_cases fits : handed.bytes.size ≤ Memory.capacity
    · obtain ⟨committed, board, installed⟩ :=
        Workbench.install_fitting carried fits
      have started := bench.trans installed
      obtain ⟨machine, iterations, phase⟩ := Workbench.start_eq
        ⟨inspector.frameLoop, (Walker.given handed.bytes).withKeys inspector.machine.keys, board⟩
      rw [← taken, committed]
      constructor
      case unchanged => nofun
      case loaded =>
        intro program same
        cases same
        exact (congrArg Workbench.machine started).trans machine
      case keypad => exact inspector.received_keypad event
      case phase =>
        refine (congrArg (fun bench => bench.frameLoop.phase) started).trans (phase.trans ?_)
        simp
      case iterations =>
        exact (congrArg (fun bench => bench.frameLoop.iterations) started).trans iterations
    · obtain ⟨refused, unchanged⟩ :=
        Workbench.install_large inspector.bench (Nat.lt_of_not_le fits)
      rw [← taken, refused]
      exact received_unchanged (bench.trans unchanged)

theorem taken_iff (carries : inspector.machine.Carries program) (offered taken : LoadedProgram) :
    Machine.taken? inspector.machine offered = some taken ↔
      offered = taken ∧ taken.bytes.size ≤ Memory.capacity := by
  unfold Machine.taken?
  by_cases fits : offered.bytes.size ≤ Memory.capacity
  · rw [Walker.load_granted (Walker.load_fits carries fits)]
    simp only [Option.some.injEq]
    exact ⟨fun same => ⟨same, same ▸ fits⟩, And.left⟩
  · rw [Walker.load_refused (inspector.machine.load_too_large (Nat.lt_of_not_le fits))]
    refine ⟨nofun, ?_⟩
    rintro ⟨rfl, inside⟩
    exact absurd inside fits

theorem committed_iff (carries : inspector.machine.Carries program) (event : InspectorEvent)
    (committed : LoadedProgram) :
    inspector.committed? event = some committed ↔
      inspector.handed? event = some (.ok committed) ∧
        committed.bytes.size ≤ Memory.capacity := by
  unfold Inspector.committed?
  rcases inspector.handed? event with none | cause | handed
  · simp
  · simp
  · simp only [Option.some.injEq, Except.ok.injEq]
    exact taken_iff carries handed committed

/-- The latest fetch is committed at the first frame or wait after it was answered, if its file gave
a program and the program fits. -/
theorem committed_when {found : Nat → Except FileError Program} {ledger : Ledger}
    (carries : inspector.machine.Carries program)
    (same : inspector.chooser.loader = ledger.loader) (consistent : ledger.Consistent found)
    (event : InspectorEvent) (committed : LoadedProgram) :
    inspector.committed? event = some committed ↔
      (event = .tick ∨ event = .wait) ∧ ledger.Ready ∧
        ∃ path, ledger.fetches.getLast? = some (committed.title, path) ∧
          found ledger.latest = .ok committed.bytes ∧ committed.bytes ≠ #[] ∧
          committed.bytes.size ≤ Memory.capacity := by
  rw [committed_iff carries, Inspector.handed_iff same consistent]
  constructor
  · rintro ⟨⟨taken, ready, title, path, latest, outcome⟩, fits⟩
    obtain ⟨rfl, read, full⟩ := (programOf_ok_iff title path _ committed).mp outcome
    exact ⟨taken, ready, path, latest, read, full, fits⟩
  · rintro ⟨taken, ready, path, latest, read, full, fits⟩
    have outcome := (programOf_ok_iff committed.title path _ committed).mpr ⟨rfl, read, full⟩
    exact ⟨⟨taken, ready, committed.title, path, latest, outcome⟩, fits⟩

end Walkers

/-- For any settings, any files, and everything that can happen to an inspector of a new walker:
the program area always holds the program that was committed last, and zeros behind it. The ledger
tells what was fetched, answered and handed out, and has the loader of the inspector. A program
is committed at a frame or at a wait, when the latest fetch was answered and its outcome not handed
out yet, and then exactly if the file could be read, is not empty and fits. Otherwise the workbench
and the keypad stay as they were. The machine is never stepped on that occasion, no frame is
counted, and only a loop that was not started yet changes its phase. -/
theorem last_committed_program_runs (found : Nat → Except FileError Program) (settings : Settings)
    (threshold : Log.Threshold) (events : List InspectorEvent) :
    let inspector := Inspector.make Walker.fresh settings threshold
    let history := events.map (.reading found)
    let live := inspector.live history
    let ledger := Ledger.run found (inspector.loads history)
    let heard := overhearing Walker.fresh settings threshold history
    let last := ((inspector.commits history).getLast?.map LoadedProgram.bytes).getD #[]
    live.chooser.loader = ledger.loader ∧
      live.machine.memory.read? 0x200 3232 =
        some (last ++ Array.replicate (3232 - last.size) 0) ∧
      ∀ event,
        (∀ program, live.committed? event = some program ↔
          (event = .tick ∨ event = .wait) ∧ ledger.Ready ∧
            ∃ path, ledger.fetches.getLast? = some (program.title, path) ∧
              found ledger.latest = .ok program.bytes ∧ program.bytes ≠ #[] ∧
              program.bytes.size ≤ 3232) ∧
        Received live (live.received event) (live.committed? event) ∧
        (heard.received event).through Overheard.machine = live.received event ∧
        (heard.received event).machine.Unstepped heard.machine.calls := by
  intro inspector history live ledger heard last
  have carries : live.machine.Carries _ := Inspector.live_carries settings threshold history
  have same : live.chooser.loader = ledger.loader :=
    Inspector.made_loader found Walker.fresh settings threshold events
  have seen : heard.through Overheard.machine = live :=
    overhearing_seen Walker.fresh settings threshold history
  refine ⟨same, Memory.read_holding carries.memory carries.fits, fun event => ⟨?_, ?_, ?_, ?_⟩⟩
  · exact committed_when carries same (Ledger.run_consistent _) event
  · exact received_load carries event
  · rw [← seen]
    exact (heard.received_through overheard_faithful event).symm
  · exact heard.received_unstepped event

end Chip8Inspector
