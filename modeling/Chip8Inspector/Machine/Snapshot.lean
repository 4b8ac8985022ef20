/-!
What the panels can see of a machine: one snapshot per frame, with the listing of the
instructions around the program counter.
-/

set_option autoImplicit false

namespace Chip8Inspector

structure ListedWord where
  location : UInt16
  high : UInt8
  low : UInt8
  text : String
  deriving DecidableEq

structure Snapshot where
  programCounter : UInt16
  indexRegister : UInt16
  registers : Vector UInt8 16
  delayTimer : UInt8
  soundTimer : UInt8
  listing : List ListedWord
  deriving DecidableEq

def Snapshot.blank : Snapshot where
  programCounter := 0
  indexRegister := 0
  registers := Vector.replicate 16 0
  delayTimer := 0
  soundTimer := 0
  listing := []

/-- A two-byte word, high byte first. -/
def wordOfBytes (high low : UInt8) : UInt16 :=
  UInt16.ofNat (256 * high.toNat + low.toNat)

theorem toNat_wordOfBytes (high low : UInt8) :
    (wordOfBytes high low).toNat = 256 * high.toNat + low.toNat := by
  have := high.toNat_lt
  have := low.toNat_lt
  simp only [wordOfBytes, UInt16.toNat_ofNat']
  omega

end Chip8Inspector
