import Chip8Inspector.Catalog.Error
import Chip8Inspector.Log.Notice

/-!
Programs are read outside the frame loop, so that a slow file holds up no frame. Every fetch is
answered some time later by one completion, and completions wait in a channel in the order in
which they arrive. Only the answer to the latest fetch is ever handed out; the others are
dropped when their turn comes.

Arrivals are events of their own. A caller that waits is a caller that asks again after every
arrival, so waiting needs no clock here.
-/

set_option autoImplicit false

namespace Chip8Inspector

structure Fetch where
  generation : Nat
  title : String
  path : String
  deriving DecidableEq

structure Completion where
  generation : Nat
  title : String
  result : Except LoadError Program

structure LoadedProgram where
  title : String
  bytes : Program
  deriving DecidableEq

structure Loader where
  generation : Nat := 0
  /-- Whether the answer to the latest fetch was not handed out yet. -/
  pending : Bool := false
  inFlight : List Fetch := []
  channel : List Completion := []

/-- What a file gives as a program. An empty file is as good as none. -/
def programOf (path : String) : Except FileError Program → Except LoadError Program
  | .error cause => .error (.read path cause)
  | .ok bytes => if bytes.isEmpty then .error (.empty path) else .ok bytes

def Completion.outcome (completion : Completion) : Except LoadError LoadedProgram :=
  completion.result.map fun bytes => ⟨completion.title, bytes⟩

namespace Loader

def fetch (loader : Loader) (title path : String) : Loader × List Notice :=
  let generation := loader.generation + 1
  ({ loader with
      generation := generation
      pending := true
      inFlight := loader.inFlight ++ [⟨generation, title, path⟩] },
    [.fetching title path])

/-- The file of one fetch was read, or could not be. Numbers of fetches that are not in flight
change nothing. -/
def complete (loader : Loader) (generation : Nat) (contents : Except FileError Program) :
    Loader :=
  match loader.inFlight.find? fun fetch => fetch.generation == generation with
  | none => loader
  | some fetch =>
      { loader with
        inFlight := loader.inFlight.filter fun other => other.generation != generation
        channel :=
          loader.channel ++ [⟨generation, fetch.title, programOf fetch.path contents⟩] }

/-- Takes answers from the channel until one is that of the wanted fetch, and gives it with
those that were passed over and those that are left. -/
def takeUntil (generation : Nat) :
    List Completion → List Completion × Option Completion × List Completion
  | [] => ([], none, [])
  | completion :: rest =>
      if completion.generation = generation then ([], some completion, rest)
      else
        let (dropped, found, left) := takeUntil generation rest
        (completion :: dropped, found, left)

def poll (loader : Loader) : Option (Except LoadError LoadedProgram) × Loader × List Notice :=
  let (dropped, found, left) := takeUntil loader.generation loader.channel
  (found.map Completion.outcome,
    { loader with
      pending := loader.pending && found.isNone
      channel := left },
    dropped.map fun completion => .superseded completion.title)

/-- A poll for a caller that waits. Nobody waits when nothing is pending, and then the channel
is left alone. -/
def wait (loader : Loader) : Option (Except LoadError LoadedProgram) × Loader × List Notice :=
  if loader.pending then loader.poll else (none, loader, [])

end Loader

end Chip8Inspector
