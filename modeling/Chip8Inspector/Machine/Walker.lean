import Chip8Inspector.Machine.Instruction
import Chip8Inspector.Machine.Pixel

/-!
A machine to look at. A walker goes through its program one instruction word per step and
follows plain jumps. Of the other instructions it carries out those that load or add a byte,
set the index register or a timer, clear the display or draw a sprite; the rest are passed
over. Past the end of the program it goes on at the start.
-/

set_option autoImplicit false

namespace Chip8Inspector

structure Walker where
  memory : Memory
  /-- The address behind the last byte of the program, once there is a program. -/
  programEnd : Option Nat
  programCounter : UInt16
  indexRegister : UInt16
  registers : Vector UInt8 16
  delayTimer : UInt8
  soundTimer : UInt8
  keys : Vector Bool 16
  deriving DecidableEq

namespace Walker

def fresh : Walker where
  memory := Memory.initial
  programEnd := none
  programCounter := UInt16.ofNat Memory.programStart
  indexRegister := 0
  registers := Vector.replicate 16 0
  delayTimer := 0
  soundTimer := 0
  keys := Vector.replicate 16 false

def sprite (walker : Walker) (rows : Nat) : List UInt8 :=
  (List.range rows).map fun row => walker.memory.byteAround (walker.indexRegister.toNat + row)

def register (walker : Walker) (x : Register) : UInt8 :=
  walker.registers.get x

def setRegister (walker : Walker) (x : Register) (byte : UInt8) : Walker :=
  { walker with registers := walker.registers.set x byte x.isLt }

/-- Turns over the pixels under a sprite. The flag register tells whether a lit pixel was
turned dark; the position and the sprite itself are those from before the drawing. -/
def draw (walker : Walker) (x y : Register) (rows : Fin 16) : Walker :=
  let left := (walker.register x).toNat
  let top := (walker.register y).toNat
  let (memory, collided) :=
    walker.memory.flipAll (spritePixels left top (walker.sprite rows.val))
  { walker with memory := memory }.setRegister Register.flag (if collided then 1 else 0)

def perform (walker : Walker) : Instruction → Walker
  | .clear => { walker with memory := walker.memory.clearDisplay }
  | .loadByte x byte => walker.setRegister x byte
  | .addByte x byte => walker.setRegister x (walker.register x + byte)
  | .loadIndex address => { walker with indexRegister := UInt16.ofNat address.val }
  | .draw x y rows => walker.draw x y rows
  | .setDelay x => { walker with delayTimer := walker.register x }
  | .setSound x => { walker with soundTimer := walker.register x }
  | _ => walker

/-- The address that an instruction leads to, before the end of the program is looked at. -/
def target (programCounter : UInt16) : Instruction → UInt16
  | .jump address => UInt16.ofNat address.val
  | _ => programCounter + 2

/-- An address outside the program counts as the start of the program. -/
def intoProgram (programEnd : Nat) (address : UInt16) : UInt16 :=
  if address.toNat < Memory.programStart ∨ programEnd ≤ address.toNat then
    UInt16.ofNat Memory.programStart
  else address

def countDown (timer : UInt8) : UInt8 :=
  if timer = 0 then 0 else timer - 1

def execute (walker : Walker) (programEnd : Nat) (instruction : Instruction) : Walker :=
  let performed := walker.perform instruction
  { performed with
    programCounter := intoProgram programEnd (target walker.programCounter instruction)
    delayTimer := countDown performed.delayTimer
    soundTimer := countDown performed.soundTimer }

def advance (walker : Walker) : Except MachineError Walker :=
  match walker.programEnd with
  | none => .error .noProgram
  | some programEnd =>
      match walker.memory.word? walker.programCounter.toNat with
      | none => .error (.outOfBounds walker.programCounter)
      | some word => .ok (walker.execute programEnd (Instruction.decode word))

/-- The locations that a window lists: every second address from `before` words before the
program counter to `after` words behind it, cut off at the ends of memory. -/
def listedLocations (walker : Walker) (window : Window) : List Nat :=
  let programCounter := walker.programCounter.toNat
  let first := programCounter - 2 * window.before
  let last := min (programCounter + 2 * window.after) (Memory.size - 2)
  List.range' first ((last + 2 - first) / 2) 2

def listedWord? (walker : Walker) (location : Nat) : Option ListedWord :=
  (walker.memory.pair? location).map fun (high, low) =>
    ⟨UInt16.ofNat location, high, low, listingText (wordOfBytes high low)⟩

def snapshot (walker : Walker) (window : Window) : Except MachineError Snapshot :=
  match (walker.listedLocations window).mapM walker.listedWord? with
  | none => .error (.outOfBounds walker.programCounter)
  | some listing =>
      .ok
        { programCounter := walker.programCounter
          indexRegister := walker.indexRegister
          registers := walker.registers
          delayTimer := walker.delayTimer
          soundTimer := walker.soundTimer
          listing := listing }

/-- A new program makes the walker as good as new, except that the keys that are down stay
down. A program that does not fit changes nothing. -/
def load (walker : Walker) (program : Program) : Except MachineError Walker :=
  match walker.memory.load program with
  | .error cause => .error cause
  | .ok memory =>
      .ok
        { memory := memory
          programEnd := some (Memory.programStart + program.size)
          programCounter := UInt16.ofNat Memory.programStart
          indexRegister := 0
          registers := Vector.replicate 16 0
          delayTimer := 0
          soundTimer := 0
          keys := walker.keys }

def setKey (walker : Walker) (key : UInt8) (down : Bool) : Walker :=
  if known : key.toNat < 16 then { walker with keys := walker.keys.set key.toNat down }
  else walker

end Walker

def Machine.keepingOnError {M α : Type} (machine : M) (outcome : Except MachineError M)
    (answer : α) : Except MachineError α × M :=
  match outcome with
  | .error cause => (.error cause, machine)
  | .ok changed => (.ok answer, changed)

instance : Machine Walker where
  snapshot walker window := (walker.snapshot window, walker)
  advance walker := Machine.keepingOnError walker walker.advance ()
  load walker program := Machine.keepingOnError walker (walker.load program) ()
  keyDown walker key := walker.setKey key true
  keyUp walker key := walker.setKey key false
  screen walker := walker.memory.screen

end Chip8Inspector
