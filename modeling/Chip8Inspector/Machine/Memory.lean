import Chip8Inspector.Machine.Basic

/-!
The 4096 bytes of a CHIP-8 machine:

* `0x000`–`0x1ff` interpreter, with the hexadecimal font from `0x050`
* `0x200`–`0xe9f` program
* `0xea0`–`0xeff` stack, work area and variables
* `0xf00`–`0xfff` display, one bit per pixel

An access that does not fit gives `none` and changes nothing.
-/

set_option autoImplicit false

namespace Chip8Inspector

structure Memory where
  bytes : Vector UInt8 4096
  deriving DecidableEq

namespace Memory

def size : Nat := 4096

def fontStart : Nat := 0x050

def programStart : Nat := 0x200

def stackStart : Nat := 0xea0

def displayStart : Nat := 0xf00

def displaySize : Nat := 0x100

def capacity : Nat := stackStart - programStart

def font : Array UInt8 :=
  #[0xf0, 0x90, 0x90, 0x90, 0xf0,
    0x20, 0x60, 0x20, 0x20, 0x70,
    0xf0, 0x10, 0xf0, 0x80, 0xf0,
    0xf0, 0x10, 0xf0, 0x10, 0xf0,
    0x90, 0x90, 0xf0, 0x10, 0x10,
    0xf0, 0x80, 0xf0, 0x10, 0xf0,
    0xf0, 0x80, 0xf0, 0x90, 0xf0,
    0xf0, 0x10, 0x20, 0x40, 0x40,
    0xf0, 0x90, 0xf0, 0x90, 0xf0,
    0xf0, 0x90, 0xf0, 0x10, 0xf0,
    0xf0, 0x90, 0xf0, 0x90, 0x90,
    0xe0, 0x90, 0xe0, 0x90, 0xe0,
    0xf0, 0x80, 0x80, 0x80, 0xf0,
    0xe0, 0x90, 0x90, 0x90, 0xe0,
    0xf0, 0x80, 0xf0, 0x80, 0xf0,
    0xf0, 0x80, 0xf0, 0x80, 0x80]

/-- Memory with `data` laid over it from `start` on; what does not fit falls away. -/
def overlay (memory : Memory) (start : Nat) (data : Array UInt8) : Memory where
  bytes := Vector.ofFn fun address =>
    if start ≤ address.val then (data[address.val - start]?).getD memory.bytes[address]
    else memory.bytes[address]

/-- Memory with the bytes from `start` up to `stop`, without `stop`, set to `byte`. -/
def blanket (memory : Memory) (start stop : Nat) (byte : UInt8) : Memory where
  bytes := Vector.ofFn fun address =>
    if start ≤ address.val ∧ address.val < stop then byte else memory.bytes[address]

def write? (memory : Memory) (start : Nat) (data : Array UInt8) : Option Memory :=
  if start + data.size ≤ size then some (memory.overlay start data) else none

def fill? (memory : Memory) (start length : Nat) (byte : UInt8) : Option Memory :=
  if start + length ≤ size then some (memory.blanket start (start + length) byte) else none

def read? (memory : Memory) (start length : Nat) : Option (Array UInt8) :=
  if start + length ≤ size then some (memory.bytes.toArray.extract start (start + length))
  else none

def pair? (memory : Memory) (address : Nat) : Option (UInt8 × UInt8) :=
  if fits : address + 1 < 4096 then some (memory.bytes[address], memory.bytes[address + 1])
  else none

def word? (memory : Memory) (address : Nat) : Option UInt16 :=
  (memory.pair? address).map fun (high, low) => wordOfBytes high low

/-- The byte at an address that goes on from the start of memory past its end. -/
def byteAround (memory : Memory) (address : Nat) : UInt8 :=
  memory.bytes[address % 4096]

def initial : Memory :=
  overlay ⟨Vector.replicate 4096 0⟩ fontStart font

def clearDisplay (memory : Memory) : Memory :=
  memory.blanket displayStart size 0

/-- Replaces whatever program was there before and clears the display. A program that does not
fit leaves everything as it was. -/
def load (memory : Memory) (program : Program) : Except MachineError Memory :=
  if capacity < program.size then .error (.programTooLarge program.size capacity)
  else
    .ok ((memory.blanket programStart stackStart 0).overlay programStart program).clearDisplay

def display (memory : Memory) : Array UInt8 :=
  memory.bytes.toArray.extract displayStart size

def setDisplay? (memory : Memory) (offset : Nat) (byte : UInt8) : Option Memory :=
  if offset < displaySize then some (memory.overlay (displayStart + offset) #[byte]) else none

end Memory

end Chip8Inspector
