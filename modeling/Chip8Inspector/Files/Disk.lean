import Chip8Inspector.Catalog.Loader
import Chip8Inspector.Files.Tree

/-!
Files that answer a loader's fetches. A fetch is answered as soon as the disk is looked at,
unless its file is slow: then it waits until that file is released, which also uses the file up.
-/

set_option autoImplicit false

namespace Chip8Inspector

/-- A fetch that reads a slow file, with what it is going to read. -/
structure WaitingFetch where
  generation : Nat
  path : String
  bytes : Program

structure Disk where
  tree : FileTree
  waiting : List WaitingFetch := []

namespace Disk

def answer (disk : Disk) (loader : Loader) (fetch : Fetch) : Disk × Loader :=
  match disk.tree.read fetch.path with
  | .done contents => (disk, loader.complete fetch.generation contents)
  | .waits steps =>
      match disk.tree.node? steps with
      | some (.slow bytes) =>
          let waiting : WaitingFetch := ⟨fetch.generation, fetch.path, bytes⟩
          ({ disk with waiting := disk.waiting ++ [waiting] }, loader)
      | _ => (disk, loader)

def isWaiting (disk : Disk) (fetch : Fetch) : Bool :=
  disk.waiting.any fun other => other.generation == fetch.generation

def settle (disk : Disk) (loader : Loader) : Disk × Loader :=
  (loader.inFlight.filter fun fetch => !disk.isWaiting fetch).foldl
    (fun (disk, loader) fetch => disk.answer loader fetch) (disk, loader)

/-- Lets a slow file go, and tells whether a fetch was waiting for it. The file must be named as
the fetch named it. If no fetch was waiting, nothing happens. -/
def release (disk : Disk) (loader : Loader) (name : String) : Bool × Disk × Loader :=
  let (released, others) := disk.waiting.partition fun fetch => fetch.path == name
  if released.isEmpty then (false, disk, loader)
  else
    (true, ⟨disk.tree.erase (FileTree.stepsOf name), others⟩,
      released.foldl (fun loader fetch => loader.complete fetch.generation (.ok fetch.bytes))
        loader)

end Disk

end Chip8Inspector
