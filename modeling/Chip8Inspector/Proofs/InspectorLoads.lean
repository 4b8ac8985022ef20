import Chip8Inspector.Proofs.InspectorHistory
import Chip8Inspector.Proofs.LoaderDelivery

/-!
# What an inspector fetches

An inspector has its loader inside its chooser, where commands, catalogs, arriving files, frames
and waits reach it. What they are to the loader is written in its ledger, so that what the
inspector is handed is told by the ledger too: the outcome of the latest fetch, once, at the first
frame or wait after its file was read.
-/

namespace Chip8Inspector

set_option autoImplicit false

/-- The fetch of an entry of a catalog. -/
def Catalog.fetchOf (catalog : Catalog) (entry : Entry) : LoaderEvent :=
  .fetch entry.title (catalog.pathOf entry)

/-- What a new catalog fetches by itself: its only entry. -/
def Catalog.fetches (catalog : Catalog) : List LoaderEvent :=
  if catalog.entries.length = 1 then catalog.entries.map catalog.fetchOf else []

/-- What choosing an index fetches: the entry there, if there is one. -/
def Chooser.fetches (chooser : Chooser) (index : Nat) : List LoaderEvent :=
  match chooser.catalog with
  | none => []
  | some catalog => (catalog.entries[index]?.map catalog.fetchOf).toList

/-- The same event, where a file that arrives holds what its fetch has found in it. -/
def InspectorEvent.reading (found : Nat → Except FileError Program) :
    InspectorEvent → InspectorEvent
  | .arrival generation _ => .arrival generation (found generation)
  | event => event

namespace Inspector

variable {M : Type} [Machine M]

/-- What an event is to the loader. -/
def requests (inspector : Inspector M) : InspectorEvent → List LoaderEvent
  | .command .loadSelected => inspector.chooser.fetches inspector.chooser.cursor
  | .select index => inspector.chooser.fetches index
  | .catalog catalog => catalog.fetches
  | .catalogFile path contents =>
      match Catalog.ofFile path contents with
      | .ok catalog => catalog.fetches
      | .error _ => []
  | .arrival generation _ => [.answer generation]
  | .tick => [.poll]
  | .wait => [.wait []]
  | _ => []

/-- What a history is to the loader. -/
def loads (inspector : Inspector M) : List InspectorEvent → List LoaderEvent
  | [] => []
  | event :: later => inspector.requests event ++ (inspector.after event).loads later

end Inspector

variable (found : Nat → Except FileError Program)

namespace Chooser

theorem select_loader {chooser : Chooser} {ledger : Ledger}
    (same : chooser.loader = ledger.loader) (index : Nat) :
    (chooser.select index).2.1.loader =
      ((chooser.fetches index).foldl (Ledger.after found) ledger).loader := by
  unfold select fetches
  cases chooser.catalog with
  | none => exact same
  | some catalog =>
      dsimp only
      cases catalog.entries[index]? with
      | none => exact same
      | some entry =>
          show (chooser.loader.fetch _ _).1 = (ledger.loader.fetch _ _).1
          rw [same]

theorem install_loader {chooser : Chooser} {ledger : Ledger}
    (same : chooser.loader = ledger.loader) (catalog : Catalog) :
    (chooser.install catalog).1.loader =
      (catalog.fetches.foldl (Ledger.after found) ledger).loader := by
  unfold install Catalog.fetches
  dsimp only
  split
  · next single =>
      obtain ⟨entry, only⟩ := List.length_eq_one_iff.mp single
      let installed : Chooser :=
        { chooser with catalog := some catalog, cursor := 0, selected := none }
      have kept : installed.loader = ledger.loader := same
      have chosen := select_loader found kept 0
      simp only [fetches, installed, only] at chosen
      rw [only]
      exact chosen
  · exact same

theorem load_loader {chooser : Chooser} {ledger : Ledger}
    (same : chooser.loader = ledger.loader) (path : String)
    (contents : Except FileError Program) :
    (chooser.load path contents).2.1.loader =
      ((match Catalog.ofFile path contents with
        | .ok catalog => catalog.fetches
        | .error _ => []).foldl (Ledger.after found) ledger).loader := by
  unfold load
  cases Catalog.ofFile path contents with
  | error cause => exact same
  | ok catalog => exact install_loader found same catalog

end Chooser

namespace Inspector

variable {M : Type} [Machine M]

theorem tick_chooser (inspector : Inspector M) :
    inspector.tick.chooser = inspector.chooser.poll.2.1 := by
  obtain ⟨machine, board, frameLoop, journal, taken⟩ := inspector.takeArrival_frame
  show inspector.takeArrival.chooser = _
  rw [taken]

theorem wait_chooser (inspector : Inspector M) :
    inspector.waitForLoad.2.chooser = inspector.chooser.wait.2.1 := by
  obtain ⟨machine, board, frameLoop, journal, waited⟩ := inspector.wait_frame
  rw [waited]

theorem after_loader {inspector : Inspector M} {ledger : Ledger}
    (same : inspector.chooser.loader = ledger.loader) (event : InspectorEvent) :
    let read := event.reading found
    (inspector.after read).chooser.loader =
      ((inspector.requests read).foldl (Ledger.after found) ledger).loader := by
  intro read
  cases event with
  | command command =>
      cases command with
      | loadSelected => exact Chooser.select_loader found same inspector.chooser.cursor
      | selectNext =>
          show inspector.chooser.selectNext.loader = ledger.loader
          unfold Chooser.selectNext
          split <;> exact same
      | _ => exact same
  | tick =>
      show inspector.tick.chooser.loader = ledger.loader.poll.2.1
      rw [tick_chooser, ← same]
      rfl
  | wait =>
      show inspector.waitForLoad.2.chooser.loader = ledger.look.2.loader
      rw [wait_chooser, ledger.look_eq]
      show (inspector.chooser.loader.wait).2.1 = _
      rw [same]
      unfold Loader.wait
      split <;> rfl
  | arrival generation contents =>
      show inspector.chooser.loader.complete _ _ = ledger.loader.complete _ _
      rw [same]
  | catalogFile path contents => exact Chooser.load_loader found same path contents
  | catalog catalog => exact Chooser.install_loader found same catalog
  | select index => exact Chooser.select_loader found same index

theorem live_loader {inspector : Inspector M} {ledger : Ledger}
    (same : inspector.chooser.loader = ledger.loader) (events : List InspectorEvent) :
    let history := events.map (.reading found)
    (inspector.live history).chooser.loader =
      ((inspector.loads history).foldl (Ledger.after found) ledger).loader := by
  induction events generalizing inspector ledger with
  | nil => exact same
  | cons event later ih =>
      simp only [List.map_cons, loads, List.foldl_append]
      exact ih (after_loader found same event)

/-- The loader of an inspector is that of the ledger of its history. -/
theorem made_loader (machine : M) (settings : Settings) (threshold : Log.Threshold)
    (events : List InspectorEvent) :
    let inspector := make machine settings threshold
    let history := events.map (.reading found)
    (inspector.live history).chooser.loader =
      (Ledger.run found (inspector.loads history)).loader :=
  live_loader found rfl events

end Inspector

variable {found}

/-- A file gives a program if it could be read and is not empty. -/
theorem programOf_ok_iff (title path : String) (contents : Except FileError Program)
    (program : LoadedProgram) :
    .ok program = (programOf path contents).map (⟨title, ·⟩) ↔
      program.title = title ∧ contents = .ok program.bytes ∧ program.bytes ≠ #[] := by
  rcases program with ⟨ownTitle, bytes⟩
  cases contents with
  | error cause => simp [programOf, Except.map]
  | ok read =>
      by_cases empty : read = #[]
      · subst empty
        simp [programOf, Except.map, eq_comm]
      · have full : read.isEmpty = false := by simpa using empty
        simp only [programOf, full, Except.map, Bool.false_eq_true, if_false, Except.ok.injEq,
          LoadedProgram.mk.injEq]
        constructor
        · rintro ⟨rfl, rfl⟩
          exact ⟨rfl, rfl, empty⟩
        · rintro ⟨rfl, rfl, -⟩
          exact ⟨rfl, rfl⟩

namespace Ledger

theorem handsOut_iff {ledger next : Ledger} {handed : Option (Except LoadError LoadedProgram)}
    (hands : ledger.HandsOut found next handed) (ready : handed.isSome = true ↔ ledger.Ready)
    (outcome : Except LoadError LoadedProgram) :
    handed = some outcome ↔
      ledger.Ready ∧ ∃ title path, ledger.fetches.getLast? = some (title, path) ∧
        outcome = (programOf path (found ledger.latest)).map (⟨title, ·⟩) := by
  cases handed with
  | none =>
      constructor
      · nofun
      · exact fun due => absurd (ready.mpr due.1) nofun
  | some given =>
      obtain ⟨-, title, path, last, told⟩ := hands
      constructor
      · intro same
        cases same
        exact ⟨ready.mp rfl, title, path, last, told⟩
      · rintro ⟨-, otherTitle, otherPath, otherLast, other⟩
        rw [last] at otherLast
        cases otherLast
        rw [told, other]

end Ledger

/-- What is handed to an inspector: the outcome of the latest fetch, when its file was read and
the outcome not handed out yet. -/
theorem Inspector.handed_iff {M : Type} [Machine M] {inspector : Inspector M} {ledger : Ledger}
    (same : inspector.chooser.loader = ledger.loader) (consistent : ledger.Consistent found)
    (event : InspectorEvent) (outcome : Except LoadError LoadedProgram) :
    inspector.handed? event = some outcome ↔
      (event = .tick ∨ event = .wait) ∧ ledger.Ready ∧
        ∃ title path, ledger.fetches.getLast? = some (title, path) ∧
          outcome = (programOf path (found ledger.latest)).map (⟨title, ·⟩) := by
  cases event with
  | tick =>
      have handed : inspector.handed? .tick = ledger.loader.poll.1 := by
        rw [← same]
        rfl
      have due : ledger.loader.poll.1.isSome = true ↔ ledger.Ready := by
        rw [Loader.poll_outcome, Option.isSome_map]
        exact Ledger.due_iff_ready consistent
      rw [handed, Ledger.handsOut_iff (Ledger.poll_handsOut consistent) due]
      simp
  | wait =>
      have handed : inspector.handed? .wait = ledger.look.1 := by
        show inspector.chooser.loader.wait.1 = ledger.loader.wait.1
        rw [same]
      rw [handed, Ledger.handsOut_iff (Ledger.look_handsOut consistent)
        (Ledger.look_isSome consistent)]
      simp
  | _ => simp [handed?]

end Chip8Inspector
