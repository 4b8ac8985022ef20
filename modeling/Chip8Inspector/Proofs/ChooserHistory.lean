import Chip8Inspector.Proofs.InspectorLoads

/-!
# What is chosen belongs to the catalog

A catalog can be replaced by a shorter or a longer one at any time, also while files of the old
one are still being read. A record beside the chooser keeps the ledger of its loader, the catalogs
that were installed, and how many fetches were made before the newest of them. The cursor and the
selection always point into the newest catalog, and a program that was fetched from it is handed
out as long as its entry is the selected one.
-/

namespace Chip8Inspector

set_option autoImplicit false

/-- What can happen to a chooser. A wait comes with the fetches that are answered while it
lasts. -/
inductive ChooserEvent where
  | catalogFile (path : String) (contents : Except FileError Program)
  | catalog (catalog : Catalog)
  | select (index : Nat)
  | loadSelected
  | selectNext
  | selectPrevious
  | answer (generation : Nat)
  | poll
  | wait (answers : List Nat)

/-- The catalog that an event installs. A file may hold none. -/
def ChooserEvent.installed? : ChooserEvent → Option Catalog
  | .catalogFile path contents => (Catalog.ofFile path contents).toOption
  | .catalog given => some given
  | _ => none

-- What the thread of each fetch finds when it reads its file.
variable (found : Nat → Except FileError Program)

namespace Chooser

def answer (chooser : Chooser) (generation : Nat) : Chooser :=
  chooser.complete generation (found generation)

def look (chooser : Chooser) : Option (Except LoadError LoadedProgram) × Chooser :=
  (chooser.wait.1, chooser.wait.2.1)

def await (chooser : Chooser) (answers : List Nat) :
    Option (Except LoadError LoadedProgram) × Chooser :=
  waitThrough look (answer found) chooser answers

def after (chooser : Chooser) : ChooserEvent → Chooser
  | .catalogFile path contents => (chooser.load path contents).2.1
  | .catalog catalog => (chooser.install catalog).1
  | .select index => (chooser.select index).2.1
  | .loadSelected => chooser.loadSelected.2.1
  | .selectNext => chooser.selectNext
  | .selectPrevious => chooser.selectPrevious
  | .answer generation => chooser.answer found generation
  | .poll => chooser.poll.2.1
  | .wait answers => (chooser.await found answers).2

def handed? (chooser : Chooser) : ChooserEvent → Option (Except LoadError LoadedProgram)
  | .poll => chooser.poll.1
  | .wait answers => (chooser.await found answers).1
  | _ => none

/-- What an event is to the loader. -/
def requests (chooser : Chooser) : ChooserEvent → List LoaderEvent
  | .select index => chooser.fetches index
  | .loadSelected => chooser.fetches chooser.cursor
  | .answer generation => [.answer generation]
  | .poll => [.poll]
  | .wait answers => [.wait answers]
  | event => (event.installed?.map Catalog.fetches).getD []

/-- A chooser with a new catalog, of which nothing was fetched yet. -/
def replaced (chooser : Chooser) (catalog : Catalog) : Chooser :=
  { chooser with catalog := some catalog, cursor := 0, selected := none }

theorem load_refused (chooser : Chooser) {path : String} {contents : Except FileError Program}
    {cause : CatalogError} (read : Catalog.ofFile path contents = .error cause) :
    chooser.load path contents = (.error cause, chooser, [.catalogFailed cause]) := by
  unfold load
  rw [read]

end Chooser

/-- A chooser and what was seen of it. -/
structure ChooserRecord where
  chooser : Chooser := {}
  ledger : Ledger := {}
  /-- The catalogs that were installed, oldest first. -/
  catalogs : List Catalog := []
  /-- How many fetches had been made when the newest of them was installed. -/
  outdated : Nat := 0

namespace ChooserRecord

def after (record : ChooserRecord) (event : ChooserEvent) : ChooserRecord where
  chooser := record.chooser.after found event
  ledger := (record.chooser.requests event).foldl (Ledger.after found) record.ledger
  catalogs := record.catalogs ++ event.installed?.toList
  outdated := if event.installed?.isSome then record.ledger.latest else record.outdated

def run (events : List ChooserEvent) : ChooserRecord :=
  events.foldl (after found) {}

/-- The record when a catalog has taken the place of another. -/
def replace (record : ChooserRecord) (catalog : Catalog) : ChooserRecord where
  chooser := record.chooser.replaced catalog
  ledger := record.ledger
  catalogs := record.catalogs ++ [catalog]
  outdated := record.ledger.latest

variable {found}

end ChooserRecord

end Chip8Inspector
