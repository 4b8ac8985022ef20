import Chip8Inspector.Machine.Snapshot
import Chip8Inspector.Settings
import Chip8Inspector.Keypad.State

/-!
The boundary between the inspector and whatever machine it looks at. The inspector steps a
machine, photographs it, gives it programs and tells it which keys change; it never looks
inside. Everything that is stated for a `Machine` holds for every machine behind the boundary.
-/

set_option autoImplicit false

namespace Chip8Inspector

inductive MachineError where
  | programTooLarge (size capacity : Nat)
  | noProgram
  | outOfBounds (address : UInt16)
  | other (text : String)
  deriving DecidableEq

def MachineError.message : MachineError → String
  | .programTooLarge size capacity =>
      "program of " ++ Text.decimal size ++ " bytes does not fit (" ++ Text.decimal capacity ++
        " bytes available)"
  | .noProgram => "no program loaded"
  | .outOfBounds address =>
      "program counter " ++ Text.hexMarked 4 address.toNat ++ " is outside memory"
  | .other text => text

abbrev Program := Array UInt8

/-- Every operation gives the machine as it is afterwards, also when it was refused: a machine
may change on the way to a refusal. Keys are numbers of one byte, and a machine may get any. -/
class Machine (M : Type) where
  snapshot : M → Window → Except MachineError Snapshot × M
  advance : M → Except MachineError Unit × M
  load : M → Program → Except MachineError Unit × M
  keyDown : M → UInt8 → M
  keyUp : M → UInt8 → M
  screen : M → String

namespace Machine

variable {M : Type} [Machine M]

def hear (machine : M) : KeyEdge → M
  | .down key => keyDown machine (UInt8.ofNat key.val)
  | .up key => keyUp machine (UInt8.ofNat key.val)

def hearAll (machine : M) (edges : List KeyEdge) : M :=
  edges.foldl hear machine

end Machine

end Chip8Inspector
