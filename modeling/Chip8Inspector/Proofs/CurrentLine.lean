import Chip8Inspector.Proofs.FrameCompletion
import Chip8Inspector.Proofs.ListingWindow

/-!
# The current line

Once a program was committed, the pane of the listing highlights one line, that of the program
counter, unless the window misses its own program counter.
-/

namespace Chip8Inspector

set_option autoImplicit false

namespace ListingPane

/-- The locations of the highlighted lines, from top to bottom. -/
def highlighted (pane : ListingPane) : List UInt16 :=
  (pane.lines.filter fun line => line.surface.face.highlighted).map fun line =>
    line.content.location

end ListingPane

theorem settled_highlighted {pane : ListingPane} (settled : pane.Settled) :
    pane.highlighted = (pane.contents.filter LineContent.current).map LineContent.location := by
  have shows : ∀ line ∈ pane.lines, line.surface.face.highlighted = line.content.current := by
    intro line member
    obtain ⟨position, inside, rfl⟩ := List.getElem_of_mem member
    rw [(settled.lines position inside).drawn]
    rfl
  unfold ListingPane.highlighted ListingPane.contents
  rw [List.filter_congr shows, List.filter_map, List.map_map]
  rfl

theorem current_contents (snapshot : Snapshot) :
    (snapshot.contents.filter LineContent.current).map LineContent.location =
      (snapshot.listing.map ListedWord.location).filter (· == snapshot.programCounter) := by
  unfold Snapshot.contents
  rw [List.filter_map, List.filter_map, List.map_map]
  rfl

theorem displayed_pane {board : Board Gauge} {snapshot : Snapshot}
    (displays : board.Displays snapshot) :
    ∃ pane, board.widget? ListingPane.id = some (.listing pane) ∧ pane.Settled ∧
      pane.contents = snapshot.contents := by
  have last : 5 < board.places.length := displays.length_eq ▸ (by decide)
  obtain ⟨named, shown⟩ := displays.get (i := 5) (by decide) last
  have found := Board.widget_of_place (Board.displayed_distinct displays)
    (List.getElem_mem last)
  simp only [List.get_eq_getElem] at named shown
  rw [named] at found
  cases stands : board.places[5].2 with
  | listing pane =>
      rw [stands] at found shown
      exact ⟨pane, found, shown.1, shown.2⟩
  | readout number =>
      rw [stands] at shown
      exact shown.elim
  | registers bank =>
      rw [stands] at shown
      exact shown.elim

/-- The locations of the lines that the board highlights in its listing, if it has a listing. -/
def Board.highlighted? (board : Board Gauge) : Option (List UInt16) :=
  match board.widget? ListingPane.id with
  | some (.listing pane) => some pane.highlighted
  | _ => none

theorem displayed_highlighted {board : Board Gauge} {snapshot : Snapshot}
    (displays : board.Displays snapshot) :
    board.highlighted? = some ((snapshot.listing.map ListedWord.location).filter
      (· == snapshot.programCounter)) := by
  obtain ⟨pane, found, settled, contents⟩ := displayed_pane displays
  unfold Board.highlighted?
  rw [found]
  dsimp only
  rw [settled_highlighted settled, contents, current_contents]

namespace Workbench

theorem current_highlighted {bench : Workbench Walker Gauge} {committed : Bool}
    (current : bench.Current committed)
    (inside : bench.machine.programCounter.toNat + 1 < 4096) :
    bench.board.highlighted? = some
      (if committed = false ∨ bench.machine.MissesItself bench.frameLoop.window then []
        else [bench.machine.programCounter]) := by
  cases committed with
  | false =>
      rw [displayed_highlighted current.2, if_pos (.inl rfl)]
      rfl
  | true =>
      obtain ⟨snapshot, taken, displays⟩ := current
      rw [displayed_highlighted displays, Walker.current_words inside taken]
      simp

end Workbench

theorem live_highlighted {inspector : Inspector Walker} (ready : inspector.bench.Ready false)
    (untouched : inspector.bench.Current false) (events : List InspectorEvent) :
    let live := inspector.live events
    live.board.highlighted? = some
      (if inspector.commits events = [] ∨
          live.machine.MissesItself inspector.frameLoop.window then []
        else [live.machine.programCounter]) := by
  intro live
  have current := Workbench.acts_current ready.scheduled untouched (inspector.acts events)
  have window := (Workbench.acts_scheduled ready.scheduled (inspector.acts events)).2
  obtain ⟨program, working, -⟩ := (Workbench.acts_ready ready (inspector.acts events)).working
  rw [Inspector.acts_commits] at current
  rw [← Inspector.live_bench] at current window working
  have shown := Workbench.current_highlighted current (Walker.carries_inside working.1)
  rw [window] at shown
  simp only [Bool.false_or, Bool.not_eq_false', List.isEmpty_iff] at shown
  exact shown

/-- For a walker with any past, any settings and everything that can happen to an inspector of it:
once a program was committed the highlighted line is that of the program counter and no other,
except that there is none if the window misses the program counter. Before that there is none. -/
theorem current_line_highlighted (past : List MachineCall) (settings : Settings)
    (threshold : Log.Threshold) (events : List InspectorEvent) :
    let inspector := Inspector.make (Machine.replay Walker.fresh past) settings threshold
    let live := inspector.live events
    live.board.highlighted? = some
      (if inspector.commits events = [] ∨ live.machine.MissesItself settings.window then []
        else [live.machine.programCounter]) := by
  intro inspector
  have untouched : inspector.bench.Current false := ⟨rfl, Board.standard_displays⟩
  exact live_highlighted (make_ready past settings threshold) untouched events

/-- The tick that brings the first program also takes the first step in it. -/
theorem Workbench.first_tick {bench : Workbench Walker Gauge} (ready : bench.Ready false)
    {program : LoadedProgram} (fits : program.bytes.size ≤ Memory.capacity) {advanced : Walker}
    (granted : ((Walker.given program.bytes).withKeys bench.machine.keys).advance = .ok advanced) :
    let acts := [.install program, .keys [], .loop .frame nofun]
    bench.commits acts = [program] ∧ (acts.foldl act bench).machine = advanced := by
  intro acts
  obtain ⟨taken, installed⟩ := install_fits ready fits
  have runs : (bench.act (.install program)).frameLoop.phase = .running := by
    rw [installed.phase, ready.phase.mpr rfl]
    rfl
  have loaded : (bench.act (.install program)).machine.advance = .ok advanced :=
    installed.machine ▸ granted
  have framed := (call_follows (bench.act (.install program)) installed.scheduled .frame).work
  obtain ⟨seen, -, worked⟩ := round_granted loaded
    (bench.act (.install program)).frameLoop.window (bench.act (.install program)).board
  constructor
  · show (bench.commit? (.install program)).toList ++ [] = [program]
    rw [taken]
    rfl
  · show ((bench.act (.install program)).call .frame).machine = advanced
    rw [runs] at framed
    exact congrArg Prod.fst (framed.trans worked)

theorem live_first_tick {inspector : Inspector Walker} (ready : inspector.bench.Ready false)
    {program : LoadedProgram} (fits : program.bytes.size ≤ Memory.capacity) {advanced : Walker}
    (granted : ((Walker.given program.bytes).withKeys inspector.machine.keys).advance =
      .ok advanced)
    {events : List InspectorEvent}
    (acts : inspector.acts events = [.install program, .keys [], .loop .frame nofun]) :
    inspector.commits events = [program] ∧ (inspector.live events).machine = advanced := by
  obtain ⟨commits, stepped⟩ := Workbench.first_tick ready fits granted
  rw [← acts, Inspector.acts_commits] at commits
  rw [← acts, ← Inspector.live_bench] at stepped
  exact ⟨commits, stepped⟩

/-- Two words, the first of which jumps into the middle of the second. -/
def oddJump : LoadedProgram := ⟨"odd jump", #[0x12, 0x03, 0x00, 0x00]⟩

def oddJumpEvents : List InspectorEvent :=
  [.catalog ⟨[⟨"odd jump", "odd.ch8"⟩], "programs", nofun⟩, .arrival 1 (.ok oddJump.bytes), .tick]

theorem odd_jump_highlights_nothing :
    let inspector := Inspector.make Walker.fresh { window := ⟨300, 8⟩ } .off
    let live := inspector.live oddJumpEvents
    inspector.commits oddJumpEvents = [oddJump] ∧ live.machine.programCounter = 0x203 ∧
      live.board.highlighted? = some [] := by
  intro inspector
  have ready : inspector.bench.Ready false := make_ready [] { window := ⟨300, 8⟩ } .off
  have untouched : inspector.bench.Current false := ⟨rfl, Board.standard_displays⟩
  have window : inspector.frameLoop.window = ⟨300, 8⟩ := rfl
  have acts : inspector.acts oddJumpEvents = [.install oddJump, .keys [], .loop .frame nofun] :=
    rfl
  -- Only these facts are used below: evaluating the inspector itself would compute its memory.
  clear_value inspector
  intro live
  have fits : oddJump.bytes.size ≤ Memory.capacity := by decide
  have jumps : Instruction.decode (wordOfBytes oddJump.bytes[0] oddJump.bytes[1]) =
      .jump 0x203 := by decide
  obtain ⟨commits, stepped⟩ := live_first_tick ready fits
    (Walker.given_advance fits (by decide) (by decide) inspector.machine.keys) acts
  have counter : live.machine.programCounter = 0x203 := by
    rw [stepped, jumps, Walker.execute_counter]
    show Walker.intoProgram (Memory.programStart + 4) 0x203 = 0x203
    decide
  have missed : live.machine.MissesItself inspector.frameLoop.window := by
    unfold Walker.MissesItself
    rw [counter, window]
    decide
  have highlighted := live_highlighted ready untouched oddJumpEvents
  exact ⟨commits, counter, highlighted.trans (congrArg some (if_pos (.inr missed)))⟩

end Chip8Inspector
