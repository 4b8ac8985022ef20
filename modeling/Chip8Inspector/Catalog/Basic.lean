import Chip8Inspector.Catalog.Error
import Chip8Inspector.Catalog.Reading
import Chip8Inspector.Files.Path

/-!
A catalog: programs to choose from, in the order in which they were listed, and the directory
that their files are seen from. A catalog has at least one program.
-/

set_option autoImplicit false

namespace Chip8Inspector

structure Catalog where
  entries : List Entry
  root : String
  entries_ne_nil : entries ≠ []

namespace Catalog

def ofEntries (entries : List Entry) (root : String) : Except CatalogError Catalog :=
  if empty : entries = [] then .error .empty else .ok ⟨entries, root, empty⟩

def ofJson (json : String) (root : String) : Except CatalogError Catalog :=
  match Json.readCatalog json.toList with
  | .error cause => .error (.malformed cause)
  | .ok entries => ofEntries entries root

/-- Reads a catalog from what the file at `path` was found to hold. Its programs lie beside
that file. -/
def ofFile (path : String) (contents : Except FileError Program) :
    Except CatalogError Catalog :=
  match contents with
  | .error cause => .error (.read path cause)
  | .ok bytes =>
      match String.fromUTF8? ⟨bytes⟩ with
      | none => .error (.read path .notText)
      | some json => ofJson json (Path.parent path)

def pathOf (catalog : Catalog) (entry : Entry) : String :=
  Path.join catalog.root entry.file

end Catalog

end Chip8Inspector
