/-!
Paths are strings, and steps are separated by slashes. Joining puts a file beside a catalog and
`parent` finds the directory of a catalog; neither of them tidies up what it is given.
-/

set_option autoImplicit false

namespace Chip8Inspector.Path

def isAbsolute (path : String) : Bool :=
  path.toList.head? == some '/'

/-- A path seen from a directory. An absolute path stands for itself. -/
def join (directory path : String) : String :=
  if isAbsolute path then path
  else if directory = "" ∨ directory.toList.getLast? = some '/' then directory ++ path
  else directory ++ "/" ++ path

def steps (path : List Char) : List (List Char) :=
  path.splitOn '/'

/-- A step that leads nowhere: nothing between two slashes, or a single dot. -/
def idle (step : List Char) : Bool :=
  step = [] || step = ['.']

def dropIdle (reversed : List (List Char)) : List (List Char) :=
  reversed.dropWhile idle

def split : List Char → List Char × List (List Char)
  | '/' :: rest => (['/'], steps rest)
  | ['.'] => (['.'], [[]])
  | '.' :: '/' :: rest => (['.'], steps ('/' :: rest))
  | path => ([], steps path)

/-- The directory that a path lies in: the path without its last step, and without slashes
and dots that lead nowhere before that. A path without such a step lies in `""`. -/
def parent (path : String) : String :=
  let (front, body) := split path.toList
  match dropIdle body.reverse with
  | [] => ""
  | _ :: before =>
      String.ofList (front ++ List.intercalate ['/'] (dropIdle before).reverse)

end Chip8Inspector.Path
