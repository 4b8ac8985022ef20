import Chip8Inspector.Log.Level

/-!
The terminal is busy showing the panels, so messages go to a journal of bounded size and the
newest of them are shown in a panel of their own. `Journal.recent` is the only way to read it.
-/

set_option autoImplicit false

namespace Chip8Inspector.Log

structure Record where
  level : Level
  text : String
  deriving DecidableEq

def Record.line (record : Record) : String :=
  record.level.tag ++ " " ++ record.text

/-- The kept lines, oldest first. -/
structure Journal where
  threshold : Threshold
  lines : List String := []

namespace Journal

def capacity : Nat := 64

def enabled (journal : Journal) (level : Level) : Bool :=
  journal.threshold.admits level

/-- A record that passes becomes the newest line; a full journal first forgets its oldest. -/
def write (journal : Journal) (record : Record) : Journal :=
  if journal.enabled record.level then
    { journal with
      lines :=
        (if journal.lines.length = capacity then journal.lines.tail else journal.lines) ++
          [record.line] }
  else journal

def writeAll (journal : Journal) (records : List Record) : Journal :=
  records.foldl write journal

def recent (journal : Journal) (count : Nat) : List String :=
  journal.lines.drop (journal.lines.length - count)

end Journal

end Chip8Inspector.Log
