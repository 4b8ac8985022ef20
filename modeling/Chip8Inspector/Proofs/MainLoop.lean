import Chip8Inspector.Host.Run
import Chip8Inspector.Proofs.InspectorHistory

/-!
# The main loop as a fold

A turn of the main loop is a row of four kinds of work: a poll, commands, a tick and a scene. A run
does the work of its turns one after the other, and stops in the middle of the turn that quits or
fails, with all done that stands before that point and nothing behind it.
-/

namespace Chip8Inspector

set_option autoImplicit false

/-- A piece of the main loop's work. -/
inductive LoopWork where
  /-- The host is asked for commands, after it let some slow files go. -/
  | poll (released : List String)
  | handle (command : Command)
  /-- A frame, before which files may be answered. -/
  | tick (meanwhile : Option (List String))
  | present

/-- How far the main loop has come. -/
structure Progress (M : Type) where
  session : Session M
  polls : Nat := 0
  ticks : Nat := 0
  /-- The scenes that were shown, in their order. -/
  scenes : List (Scene Gauge) := []

/-- Before any work. -/
def Progress.start {M : Type} (session : Session M) : Progress M where
  session := session

@[simp]
theorem Progress.start_polls {M : Type} (session : Session M) : (start session).polls = 0 :=
  rfl

@[simp]
theorem Progress.start_ticks {M : Type} (session : Session M) : (start session).ticks = 0 :=
  rfl

@[simp]
theorem Progress.start_scenes {M : Type} (session : Session M) : (start session).scenes = [] :=
  rfl

namespace Inspector

variable {M : Type} [Machine M]

theorem handle_running (inspector : Inspector M) (command : Command) :
    (inspector.handle command).running = true ↔
      inspector.running = true ∧ command ≠ .quit := by
  cases command <;> simp [handle, withKeypad, keyUp, report, togglePause, withTurn, loadSelected,
    withChooser]

theorem handleAll_running (inspector : Inspector M) (commands : List Command) :
    (inspector.handleAll commands).running = true ↔
      inspector.running = true ∧ .quit ∉ commands := by
  induction commands generalizing inspector with
  | nil => simp [handleAll]
  | cons command later ih =>
      show ((inspector.handle command).handleAll later).running = true ↔ _
      rw [ih, handle_running, List.mem_cons, not_or, and_assoc, ne_comm]

theorem tick_running (inspector : Inspector M) :
    inspector.tick.running = inspector.running := by
  obtain ⟨machine, board, frameLoop, journal, taken⟩ := inspector.takeArrival_frame
  show inspector.takeArrival.running = _
  rw [taken]

end Inspector

variable {M : Type}

theorem Session.await_running (session : Session M) (released : List String) :
    (session.await released).inspector.running = session.inspector.running := by
  have settled : session.settle.inspector.running = session.inspector.running := rfl
  rw [await, ← settled]
  generalize session.settle = start
  induction released generalizing start with
  | nil => rfl
  | cons name later ih => exact ih (start.release name).2

theorem Session.awaitIf_running (session : Session M) (released : Option (List String)) :
    (session.awaitIf released).inspector.running = session.inspector.running := by
  cases released with
  | none => rfl
  | some names => exact session.await_running names

namespace Progress

variable [Machine M]

def perform (progress : Progress M) : LoopWork → Progress M
  | .poll released =>
      { progress with
        session := progress.session.await released
        polls := progress.polls + 1 }
  | .handle command => { progress with session := progress.session.map (·.handle command) }
  | .tick meanwhile =>
      { progress with
        session := (progress.session.awaitIf meanwhile).map Inspector.tick
        ticks := progress.ticks + 1 }
  | .present =>
      { progress with scenes := progress.scenes ++ [progress.session.inspector.scene] }

def performAll (progress : Progress M) (work : List LoopWork) : Progress M :=
  work.foldl perform progress

/-- A run that ends here. -/
def ends (progress : Progress M) (ending : Ending) : Run M where
  session := progress.session
  polls := progress.polls
  scenes := progress.scenes
  ending := ending

/-- A run that ends here without a failure, and says so. -/
def quits (progress : Progress M) : Run M :=
  { progress with session := progress.session.map Inspector.reportQuit }.ends .quit

/-- A run that goes on from here. -/
def resume (progress : Progress M) (beats : List Beat) : Run M :=
  let later := progress.session.run beats
  { later with
    polls := progress.polls + later.polls
    scenes := progress.scenes ++ later.scenes }

end Progress

/-- The poll that brings some commands, and their handling. -/
def Beat.input (beat : Beat) (commands : List Command) : List LoopWork :=
  .poll beat.released :: commands.map .handle

/-- A turn of the main loop that neither quits nor fails. -/
structure QuietBeat where
  released : List String := []
  commands : List Command
  meanwhile : Option (List String) := none
  goesOn : .quit ∉ commands

namespace QuietBeat

def beat (quiet : QuietBeat) : Beat where
  released := quiet.released
  commands := .ok quiet.commands
  meanwhile := quiet.meanwhile

def work (quiet : QuietBeat) : List LoopWork :=
  quiet.beat.input quiet.commands ++ [.tick quiet.meanwhile, .present]

end QuietBeat

namespace Progress

variable [Machine M] (progress : Progress M)

theorem handles (commands : List Command) :
    progress.performAll (commands.map .handle) =
      { progress with session := progress.session.map (·.handleAll commands) } := by
  induction commands generalizing progress with
  | nil => rfl
  | cons command later ih => exact ih (progress.perform (.handle command))

theorem inputs (beat : Beat) (commands : List Command) :
    progress.performAll (beat.input commands) =
      { progress with
        session := (progress.session.await beat.released).map (·.handleAll commands)
        polls := progress.polls + 1 } :=
  (progress.perform (.poll beat.released)).handles commands

theorem performAll_append (earlier later : List LoopWork) :
    progress.performAll (earlier ++ later) = (progress.performAll earlier).performAll later :=
  List.foldl_append

theorem quiets_counted (quiets : List QuietBeat) :
    let done := progress.performAll (quiets.flatMap QuietBeat.work)
    done.polls = progress.polls + quiets.length ∧ done.ticks = progress.ticks + quiets.length ∧
      done.scenes.length = progress.scenes.length + quiets.length := by
  induction quiets generalizing progress with
  | nil => exact ⟨rfl, rfl, rfl⟩
  | cons quiet later ih =>
      have first : (progress.performAll quiet.work).polls = progress.polls + 1 ∧
          (progress.performAll quiet.work).ticks = progress.ticks + 1 ∧
          (progress.performAll quiet.work).scenes.length = progress.scenes.length + 1 := by
        rw [QuietBeat.work, performAll_append, inputs]
        exact ⟨rfl, rfl, List.length_append⟩
      obtain ⟨polls, ticks, scenes⟩ := ih (progress.performAll quiet.work)
      rw [List.flatMap_cons, performAll_append, List.length_cons]
      dsimp only
      omega

theorem resume_start (session : Session M) (beats : List Beat) :
    (start session).resume beats = session.run beats := by
  simp [resume]
  rfl

variable {progress} (running : progress.session.inspector.running = true)

include running

/-- Whether the inspector still runs when the commands of a turn are handled. -/
theorem handled_running (beat : Beat) (commands : List Command) :
    ((progress.session.await beat.released).inspector.handleAll commands).running = true ↔
      .quit ∉ commands := by
  rw [Inspector.handleAll_running, Session.await_running]
  exact and_iff_right running

theorem quiet_running (quiet : QuietBeat) :
    (progress.performAll quiet.work).session.inspector.running = true := by
  rw [QuietBeat.work, performAll_append, inputs]
  exact (Inspector.tick_running _).trans ((Session.awaitIf_running _ _).trans
    ((handled_running running quiet.beat _).mpr quiet.goesOn))

/-- A failed poll is the last work of a run. -/
theorem resume_lost {beat : Beat} {cause : String} (lost : beat.commands = .error cause)
    (rest : List Beat) :
    progress.resume (beat :: rest) =
      (progress.perform (.poll beat.released)).ends (.failed cause) := by
  simp only [resume, Session.run, running, if_true, lost, perform, ends, List.append_nil]

/-- Nothing is done behind the commands of a turn that quits. -/
theorem resume_quit {beat : Beat} {commands : List Command} (given : beat.commands = .ok commands)
    (quit : .quit ∈ commands) (rest : List Beat) :
    progress.resume (beat :: rest) = (progress.performAll (beat.input commands)).quits := by
  have stops := (handled_running running beat commands).not.mpr (not_not.mpr quit)
  rw [Bool.not_eq_true] at stops
  simp only [inputs, resume, Session.run, running, if_true, given, Session.map, stops,
    Bool.false_eq_true, if_false, List.append_nil]
  rfl

/-- A scene that cannot be shown was preceded by its tick. -/
theorem resume_unshown {beat : Beat} {commands : List Command}
    (given : beat.commands = .ok commands) (goesOn : .quit ∉ commands) {cause : String}
    (unshown : beat.shown = .error cause) (rest : List Beat) :
    progress.resume (beat :: rest) =
      (progress.performAll (beat.input commands ++ [.tick beat.meanwhile])).ends
        (.failed cause) := by
  have still := (handled_running running beat commands).mpr goesOn
  simp only [performAll_append, inputs, resume, Session.run, running, if_true, given,
    Session.map, still, unshown, List.append_nil]
  rfl

/-- A turn that neither quits nor fails does all of its work, and the run goes on. -/
theorem resume_quiet (quiet : QuietBeat) (rest : List Beat) :
    progress.resume (quiet.beat :: rest) = (progress.performAll quiet.work).resume rest := by
  have still := (handled_running running quiet.beat quiet.commands).mpr quiet.goesOn
  have given : quiet.beat.commands = .ok quiet.commands := rfl
  have shown : quiet.beat.shown = .ok () := rfl
  rw [QuietBeat.work, performAll_append, inputs]
  simp only [resume, Session.run, running, if_true, given, Session.map, still, shown]
  simp only [performAll, List.foldl_cons, List.foldl_nil, perform, List.append_assoc,
    List.singleton_append, Run.mk.injEq]
  refine ⟨rfl, ?_, rfl, rfl⟩
  rw [Nat.add_assoc, Nat.add_comm 1]
  rfl

/-- What quiet turns do is done in their order, and the run goes on. -/
theorem resume_quiets (quiets : List QuietBeat) (rest : List Beat) :
    let done := progress.performAll (quiets.flatMap QuietBeat.work)
    done.session.inspector.running = true ∧
      progress.resume (quiets.map QuietBeat.beat ++ rest) = done.resume rest := by
  induction quiets generalizing progress with
  | nil => exact ⟨running, rfl⟩
  | cons quiet later ih =>
      rw [List.flatMap_cons, performAll_append, List.map_cons, List.cons_append,
        resume_quiet running]
      exact ih (quiet_running running quiet)

end Progress

/-- A run is its work, done in order. What does not run does no work at all. Else, after any number
of turns that neither quit nor fail: a poll that fails is the last work; if `quit` is among the
commands of a poll then all of them are handled, also those behind it, and no tick or scene comes
after them; a scene that cannot be shown still had its tick. -/
theorem run_folds_work [Machine M] (session : Session M) :
    (session.inspector.running = false → ∀ beats, session.run beats =
      { session := session.map Inspector.reportQuit, polls := 0, scenes := [], ending := .quit }) ∧
    (session.inspector.running = true →
      ∀ (quiets : List QuietBeat) (last : Beat) (later : List Beat),
        let done := (Progress.start session).performAll (quiets.flatMap QuietBeat.work)
        let run := session.run (quiets.map QuietBeat.beat ++ last :: later)
        (done.polls = quiets.length ∧ done.ticks = quiets.length ∧
          done.scenes.length = quiets.length) ∧
        (∀ cause, last.commands = .error cause →
          run = (done.perform (.poll last.released)).ends (.failed cause)) ∧
        ∀ commands, last.commands = .ok commands →
          let handled := done.performAll (last.input commands)
          (handled.polls = quiets.length + 1 ∧ handled.ticks = quiets.length ∧
            handled.scenes = done.scenes) ∧
          (.quit ∈ commands → run = handled.quits) ∧
          (.quit ∉ commands → ∀ cause, last.shown = .error cause →
            run = (handled.perform (.tick last.meanwhile)).ends (.failed cause))) := by
  constructor
  · intro stopped beats
    unfold Session.run
    rw [stopped]
    rfl
  · intro running quiets last later done run
    have started : (Progress.start session).session.inspector.running = true := running
    obtain ⟨still, resumed⟩ := Progress.resume_quiets started quiets (last :: later)
    have whole : run = done.resume (last :: later) := by
      rw [← resumed, Progress.resume_start]
    have counted : done.polls = quiets.length ∧ done.ticks = quiets.length ∧
        done.scenes.length = quiets.length := by
      simpa using (Progress.start session).quiets_counted quiets
    rw [whole]
    refine ⟨counted, ?_, ?_⟩
    · intro cause lost
      exact Progress.resume_lost still lost later
    · intro commands given handled
      refine ⟨?_, ?_, ?_⟩
      · rw [show handled = _ from done.inputs last commands]
        exact ⟨congrArg (· + 1) counted.1, counted.2.1, rfl⟩
      · intro quit
        exact Progress.resume_quit still given quit later
      · intro goesOn cause unshown
        rw [Progress.resume_unshown still given goesOn unshown, Progress.performAll_append]
        rfl

end Chip8Inspector
