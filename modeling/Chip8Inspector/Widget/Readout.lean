import Chip8Inspector.Machine.Snapshot
import Chip8Inspector.Widget.Surface

/-!
A readout shows one number under a label. It is drawn when it is made, and again only when it
is given a number that differs from the one it holds.
-/

set_option autoImplicit false

namespace Chip8Inspector

inductive SnapshotField where
  | programCounter
  | indexRegister
  | delayTimer
  | soundTimer
  deriving DecidableEq

def SnapshotField.read : SnapshotField → Snapshot → Nat
  | .programCounter, snapshot => snapshot.programCounter.toNat
  | .indexRegister, snapshot => snapshot.indexRegister.toNat
  | .delayTimer, snapshot => snapshot.delayTimer.toNat
  | .soundTimer, snapshot => snapshot.soundTimer.toNat

structure Readout where
  id : String
  label : String
  width : Nat
  value : Nat
  /-- What the readout follows when it stands on its own. -/
  field : Option SnapshotField
  surface : Surface
  deriving DecidableEq

namespace Readout

def face (readout : Readout) : Face where
  text := Text.labelled readout.label readout.width readout.value

def render (readout : Readout) : Readout :=
  { readout with surface := readout.surface.draw readout.face }

def make (id label : String) (width : Nat) (field : Option SnapshotField) : Readout :=
  render ⟨id, label, width, 0, field, {}⟩

def programCounter : Readout :=
  make "program-counter" "PROGRAM" 4 (some .programCounter)

def indexRegister : Readout :=
  make "index-register" "INDEX" 4 (some .indexRegister)

def delayTimer : Readout :=
  make "delay-timer" "DELAY" 2 (some .delayTimer)

def soundTimer : Readout :=
  make "sound-timer" "SOUND" 2 (some .soundTimer)

/-- The readout of one of the sixteen registers. It follows no field of its own, since its
number comes through the bank of registers. -/
def register (index : Fin 16) : Readout :=
  make ("variable-register-" ++ Text.decimal index.val) (Text.registerName index) 2 none

def register? (index : Nat) : Except WidgetError Readout :=
  if known : index < 16 then .ok (register ⟨index, known⟩) else .error (.registerIndex index)

def update (readout : Readout) (value : Nat) : Bool × Readout :=
  if readout.value = value then (false, readout)
  else (true, render { readout with value := value })

def sync (readout : Readout) (snapshot : Snapshot) : Except WidgetError Bool × Readout :=
  match readout.field with
  | none => (.error (.unbound readout.id), readout)
  | some field =>
      let (rendered, updated) := readout.update (field.read snapshot)
      (.ok rendered, updated)

end Readout

end Chip8Inspector
