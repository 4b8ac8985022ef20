import Chip8Inspector.Machine.Basic

/-!
A machine that answers from a script instead of running anything, and remembers what it was
asked. It shows how the inspector treats a machine: what it asks for, in which order, and what
it makes of refusals.
-/

set_option autoImplicit false

namespace Chip8Inspector

inductive MachineCall where
  | advance
  | snapshot (window : Window)
  | load (program : Program)
  | keyDown (key : UInt8)
  | keyUp (key : UInt8)

def MachineCall.text : MachineCall → String
  | .advance => "advance"
  | .snapshot window =>
      "snapshot " ++ Text.decimal window.before ++ " " ++ Text.decimal window.after
  | .load program =>
      "load " ++ String.join (program.toList.map fun byte => Text.hex 2 byte.toNat)
  | .keyDown key => "down " ++ Text.decimal key.toNat
  | .keyUp key => "up " ++ Text.decimal key.toNat

/-- Answers still to be given. A queue that has run out stands for success; a snapshot that
is not in the script is the last one given. -/
structure ScriptedMachine where
  advances : List (Option MachineError)
  snapshots : List (Except MachineError Snapshot)
  loads : List (Option MachineError)
  text : String
  last : Snapshot := Snapshot.blank
  calls : List MachineCall := []

namespace ScriptedMachine

def note (machine : ScriptedMachine) (call : MachineCall) : ScriptedMachine :=
  { machine with calls := machine.calls ++ [call] }

def outcome : List (Option MachineError) → Except MachineError Unit
  | some cause :: _ => .error cause
  | _ => .ok ()

def advance (machine : ScriptedMachine) : Except MachineError Unit × ScriptedMachine :=
  (outcome machine.advances, { machine.note .advance with advances := machine.advances.tail })

def load (machine : ScriptedMachine) (program : Program) :
    Except MachineError Unit × ScriptedMachine :=
  (outcome machine.loads, { machine.note (.load program) with loads := machine.loads.tail })

def snapshot (machine : ScriptedMachine) (window : Window) :
    Except MachineError Snapshot × ScriptedMachine :=
  let noted := { machine.note (.snapshot window) with snapshots := machine.snapshots.tail }
  match machine.snapshots with
  | [] => (.ok machine.last, noted)
  | .error cause :: _ => (.error cause, noted)
  | .ok next :: _ => (.ok next, { noted with last := next })

end ScriptedMachine

instance : Machine ScriptedMachine where
  snapshot := ScriptedMachine.snapshot
  advance := ScriptedMachine.advance
  load := ScriptedMachine.load
  keyDown machine key := machine.note (.keyDown key)
  keyUp machine key := machine.note (.keyUp key)
  screen machine := machine.text

end Chip8Inspector
