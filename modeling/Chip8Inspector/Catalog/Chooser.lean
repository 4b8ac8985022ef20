import Chip8Inspector.Catalog.Basic
import Chip8Inspector.Catalog.Loader

/-!
The catalog with a cursor to choose by, and the loader for whatever is chosen.
-/

set_option autoImplicit false

namespace Chip8Inspector

structure Chooser where
  catalog : Option Catalog := none
  cursor : Nat := 0
  /-- The entry that was fetched last from this catalog. -/
  selected : Option Nat := none
  loader : Loader := {}

namespace Chooser

def entries (chooser : Chooser) : List Entry :=
  match chooser.catalog with
  | none => []
  | some catalog => catalog.entries

def select (chooser : Chooser) (index : Nat) : Bool × Chooser × List Notice :=
  match chooser.catalog with
  | none => (false, chooser, [])
  | some catalog =>
      match catalog.entries[index]? with
      | none => (false, chooser, [])
      | some entry =>
          let (loader, notices) := chooser.loader.fetch entry.title (catalog.pathOf entry)
          (true, { chooser with loader := loader, cursor := index, selected := some index },
            notices)

def loadSelected (chooser : Chooser) : Bool × Chooser × List Notice :=
  chooser.select chooser.cursor

/-- Replaces the catalog. A single entry is fetched straight away. -/
def install (chooser : Chooser) (catalog : Catalog) : Chooser × List Notice :=
  let installed := { chooser with catalog := some catalog, cursor := 0, selected := none }
  let count := catalog.entries.length
  if count = 1 then
    let (_, chosen, notices) := installed.select 0
    (chosen, .catalogInstalled count :: notices)
  else (installed, [.catalogInstalled count])

/-- Installs a catalog from a file. When that fails, everything stays as it was. -/
def load (chooser : Chooser) (path : String) (contents : Except FileError Program) :
    Except CatalogError Unit × Chooser × List Notice :=
  match Catalog.ofFile path contents with
  | .error cause => (.error cause, chooser, [.catalogFailed cause])
  | .ok catalog => (.ok (), chooser.install catalog)

def selectNext (chooser : Chooser) : Chooser :=
  if chooser.cursor + 1 < chooser.entries.length then
    { chooser with cursor := chooser.cursor + 1 }
  else chooser

def selectPrevious (chooser : Chooser) : Chooser :=
  { chooser with cursor := chooser.cursor - 1 }

def complete (chooser : Chooser) (generation : Nat) (contents : Except FileError Program) :
    Chooser :=
  { chooser with loader := chooser.loader.complete generation contents }

def poll (chooser : Chooser) : Option (Except LoadError LoadedProgram) × Chooser × List Notice :=
  let (outcome, loader, notices) := chooser.loader.poll
  (outcome, { chooser with loader := loader }, notices)

def wait (chooser : Chooser) : Option (Except LoadError LoadedProgram) × Chooser × List Notice :=
  let (outcome, loader, notices) := chooser.loader.wait
  (outcome, { chooser with loader := loader }, notices)

end Chooser

end Chip8Inspector
