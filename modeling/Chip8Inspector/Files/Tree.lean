import Chip8Inspector.Files.Error
import Chip8Inspector.Files.Path
import Chip8Inspector.Machine.Basic

/-!
Files kept in memory, below one working directory. A file may be slow: reading it gives nothing
until it is released. There is nothing outside the working directory but directories.
-/

set_option autoImplicit false

namespace Chip8Inspector

inductive FileNode where
  | file (bytes : Program)
  | slow (bytes : Program)
  | directory

/-- Nodes under the steps that lead to them from the working directory, which itself always
exists. -/
structure FileTree where
  nodes : List (List String × FileNode)

namespace FileTree

inductive Place where
  | inside (steps : List String)
  | outside

def stepsOf (name : String) : List String :=
  ((Path.steps name.toList).filter fun step => !Path.idle step).map String.ofList

def node? (tree : FileTree) : List String → Option FileNode
  | [] => some .directory
  | steps => tree.nodes.lookup steps

def enter (tree : FileTree) : Place → Except FileError Unit
  | .outside => .ok ()
  | .inside steps =>
      match tree.node? steps with
      | some .directory => .ok ()
      | some _ => .error .notDirectory
      | none => .error .notFound

def longestName : Nat := 255

def longestPath : Nat := 4095

def child (tree : FileTree) (place : Place) (name : String) : Except FileError Place :=
  if longestName < name.utf8ByteSize then .error .nameTooLong
  else
    match place with
    | .outside => .error .notFound
    | .inside steps =>
        if (tree.node? (steps ++ [name])).isSome then .ok (.inside (steps ++ [name]))
        else .error .notFound

def above : Place → Place
  | .outside => .outside
  | .inside [] => .outside
  | .inside steps => .inside steps.dropLast

/-- Goes one step on from a place, which must be a directory. -/
def step (tree : FileTree) (place : Place) (step : List Char) : Except FileError Place :=
  match tree.enter place with
  | .error cause => .error cause
  | .ok () =>
      if Path.idle step then .ok place
      else if step = ['.', '.'] then .ok (above place)
      else tree.child place (String.ofList step)

def walk (tree : FileTree) (place : Place) : List (List Char) → Except FileError Place
  | [] => .ok place
  | step :: rest =>
      match tree.step place step with
      | .error cause => .error cause
      | .ok next => tree.walk next rest

def resolve (tree : FileTree) (path : String) : Except FileError Place :=
  if path.toList.contains '\x00' then .error .nulInPath
  else if path = "" then .error .notFound
  else if longestPath < path.utf8ByteSize then .error .nameTooLong
  else
    let start := if Path.isAbsolute path then Place.outside else .inside []
    tree.walk start (Path.steps path.toList)

inductive Reading where
  | done (contents : Except FileError Program)
  | waits (steps : List String)

def read (tree : FileTree) (path : String) : Reading :=
  match tree.resolve path with
  | .error cause => .done (.error cause)
  | .ok .outside => .done (.error .isDirectory)
  | .ok (.inside steps) =>
      match tree.node? steps with
      | some (.file bytes) => .done (.ok bytes)
      | some (.slow _) => .waits steps
      | some .directory => .done (.error .isDirectory)
      | none => .done (.error .notFound)

def contents (tree : FileTree) (path : String) : Except FileError Program :=
  match tree.read path with
  | .done contents => contents
  | .waits _ => .error .notFound

def erase (tree : FileTree) (steps : List String) : FileTree :=
  ⟨tree.nodes.filter fun node => node.1 != steps⟩

def put (tree : FileTree) (steps : List String) (node : FileNode) : FileTree :=
  ⟨(steps, node) :: (tree.erase steps).nodes⟩

/-- The tree with a node under a name, and with the directories that lead to it. -/
def write (tree : FileTree) (name : String) (node : FileNode) : FileTree :=
  let steps := stepsOf name
  let parents := (List.range steps.length).map steps.take
  let rooted := parents.foldl
    (fun tree parent => if (tree.node? parent).isSome then tree else tree.put parent .directory)
    tree
  rooted.put steps node

def remove (tree : FileTree) (name : String) : Bool × FileTree :=
  ((tree.node? (stepsOf name)).isSome, tree.erase (stepsOf name))

def ofFiles (files : List (String × FileNode)) : FileTree :=
  files.foldl (fun tree file => tree.write file.1 file.2) ⟨[]⟩

end FileTree

end Chip8Inspector
