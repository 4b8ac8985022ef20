import Chip8Inspector.Files.Disk
import Chip8Inspector.Scene

/-!
The main loop: take what the host asks for, tick, show the scene. Each turn of the loop is a
beat, and a run is determined by the beats that it gets.
-/

set_option autoImplicit false

namespace Chip8Inspector

namespace Inspector

variable {M : Type}

def reportQuit (inspector : Inspector M) : Inspector M :=
  inspector.report [.quit inspector.frameLoop.iterations]

end Inspector

structure Session (M : Type) where
  inspector : Inspector M
  disk : Disk

/-- What the host does in one turn of the main loop: it lets slow files go, is asked for
commands, and shows a scene. Asking and showing may fail. -/
structure Beat where
  released : List String := []
  commands : Except String (List Command)
  /-- The slow files that go between the commands and the tick, if files are answered then. -/
  meanwhile : Option (List String) := none
  shown : Except String Unit := .ok ()

inductive Ending where
  | quit
  | failed (cause : String)
  | outOfBeats
  deriving DecidableEq

structure Run (M : Type) where
  session : Session M
  polls : Nat := 0
  scenes : List (Scene Gauge) := []
  ending : Ending

namespace Session

variable {M : Type}

def withLoader (session : Session M) (disk : Disk) (loader : Loader) : Session M where
  inspector :=
    { session.inspector with chooser := { session.inspector.chooser with loader := loader } }
  disk := disk

def settle (session : Session M) : Session M :=
  let (disk, loader) := session.disk.settle session.inspector.chooser.loader
  session.withLoader disk loader

def release (session : Session M) (name : String) : Bool × Session M :=
  let (found, disk, loader) := session.disk.release session.inspector.chooser.loader name
  (found, session.withLoader disk loader)

/-- Files are answered, those that are not slow first. -/
def await (session : Session M) (released : List String) : Session M :=
  released.foldl (fun session name => (session.release name).2) session.settle

def awaitIf (session : Session M) (released : Option (List String)) : Session M :=
  released.elim session session.await

def map (session : Session M) (change : Inspector M → Inspector M) : Session M :=
  { session with inspector := change session.inspector }

variable [Machine M]

/-- Goes on until the inspector stops running, the host fails, or there are no more beats. All
commands of a beat are handled, also those behind a `quit`. -/
def run (session : Session M) (beats : List Beat) : Run M :=
  if session.inspector.running then
    match beats with
    | [] => { session := session, ending := .outOfBeats }
    | beat :: rest =>
        let awaited := session.await beat.released
        match beat.commands with
        | .error cause => { session := awaited, polls := 1, ending := .failed cause }
        | .ok commands =>
            let handled := awaited.map (·.handleAll commands)
            if handled.inspector.running then
              let ticked := (handled.awaitIf beat.meanwhile).map Inspector.tick
              match beat.shown with
              | .error cause => { session := ticked, polls := 1, ending := .failed cause }
              | .ok () =>
                  let later := run ticked rest
                  { later with
                    polls := later.polls + 1
                    scenes := ticked.inspector.scene :: later.scenes }
            else { session := handled.map Inspector.reportQuit, polls := 1, ending := .quit }
  else { session := session.map Inspector.reportQuit, ending := .quit }

end Session

end Chip8Inspector
