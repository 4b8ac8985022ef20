import Chip8Inspector.Widget.Readout

/-!
The bank of the sixteen registers: sixteen readouts that are never replaced. A bank that is
given the values it was given last does not even look at its readouts.
-/

set_option autoImplicit false

namespace Chip8Inspector

structure RegisterBank where
  given : Option (Vector UInt8 16)
  readouts : Vector Readout 16
  surface : Surface
  deriving DecidableEq

/-- What a composite widget shows of itself: the ids of its parts, one on each line. -/
def slotsFace (ids : List String) : Face where
  text := String.intercalate "\n" ids

namespace RegisterBank

def id : String := "variable-registers"

def face (bank : RegisterBank) : Face :=
  slotsFace (bank.readouts.toList.map Readout.id)

def render (bank : RegisterBank) : RegisterBank :=
  { bank with surface := bank.surface.draw bank.face }

def make : RegisterBank :=
  render ⟨none, Vector.ofFn Readout.register, {}⟩

def put (bank : RegisterBank) (values : Vector UInt8 16) : Bool × RegisterBank :=
  if bank.given = some values then (false, bank)
  else
    let updates :=
      Vector.zipWith (fun readout value => readout.update value.toNat) bank.readouts values
    (updates.any Prod.fst, { bank with given := some values, readouts := updates.map Prod.snd })

def update (bank : RegisterBank) (values : List UInt8) : Except WidgetError Bool × RegisterBank :=
  if fits : values.length = 16 then
    let (rendered, updated) := bank.put ⟨values.toArray, by simpa using fits⟩
    (.ok rendered, updated)
  else (.error (.invalidLength id 16 values.length), bank)

def sync (bank : RegisterBank) (snapshot : Snapshot) : Except WidgetError Bool × RegisterBank :=
  bank.update snapshot.registers.toList

end RegisterBank

end Chip8Inspector
