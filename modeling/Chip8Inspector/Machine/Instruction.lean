import Chip8Inspector.Text.Number

/-!
CHIP-8 instruction words. `Instruction.decode` takes a word apart once; its text in listings and
its effect on a machine are two functions of the result.
-/

set_option autoImplicit false

namespace Chip8Inspector

abbrev Register := Fin 16

def Register.flag : Register := 15

inductive Combination where
  | move
  | or
  | and
  | xor
  | add
  | subtract
  | subtractFrom
  deriving DecidableEq

/-- Registers are `x` and `y`. A word that is no instruction is data. -/
inductive Instruction where
  | clear
  | leave
  | system (address : Fin 4096)
  | jump (address : Fin 4096)
  | call (address : Fin 4096)
  | skipIfByte (x : Register) (byte : UInt8)
  | skipUnlessByte (x : Register) (byte : UInt8)
  | skipIfSame (x y : Register)
  | skipUnlessSame (x y : Register)
  | loadByte (x : Register) (byte : UInt8)
  | addByte (x : Register) (byte : UInt8)
  | combine (operation : Combination) (x y : Register)
  | shiftRight (x : Register)
  | shiftLeft (x : Register)
  | loadIndex (address : Fin 4096)
  | jumpFrom (address : Fin 4096)
  | random (x : Register) (byte : UInt8)
  | draw (x y : Register) (rows : Fin 16)
  | skipIfPressed (x : Register)
  | skipUnlessPressed (x : Register)
  | readDelay (x : Register)
  | awaitKey (x : Register)
  | setDelay (x : Register)
  | setSound (x : Register)
  | addIndex (x : Register)
  | pointToGlyph (x : Register)
  | storeDecimal (x : Register)
  | storeRegisters (x : Register)
  | loadRegisters (x : Register)
  | data (word : UInt16)
  deriving DecidableEq

def Combination.mnemonic : Combination → String
  | .move => "LD"
  | .or => "OR"
  | .and => "AND"
  | .xor => "XOR"
  | .add => "ADD"
  | .subtract => "SUB"
  | .subtractFrom => "SUBN"

namespace Instruction

/-- The last digit of an `8xyn` word picks the operation; some digits mean nothing. -/
def ofArithmetic (x y : Register) (word : UInt16) : Nat → Instruction
  | 0x0 => .combine .move x y
  | 0x1 => .combine .or x y
  | 0x2 => .combine .and x y
  | 0x3 => .combine .xor x y
  | 0x4 => .combine .add x y
  | 0x5 => .combine .subtract x y
  | 0x6 => .shiftRight x
  | 0x7 => .combine .subtractFrom x y
  | 0xe => .shiftLeft x
  | _ => .data word

def ofMiscellany (x : Register) (word : UInt16) : Nat → Instruction
  | 0x07 => .readDelay x
  | 0x0a => .awaitKey x
  | 0x15 => .setDelay x
  | 0x18 => .setSound x
  | 0x1e => .addIndex x
  | 0x29 => .pointToGlyph x
  | 0x33 => .storeDecimal x
  | 0x55 => .storeRegisters x
  | 0x65 => .loadRegisters x
  | _ => .data word

def decode (word : UInt16) : Instruction :=
  let value := word.toNat
  let x := Fin.ofNat 16 (value / 256)
  let y := Fin.ofNat 16 (value / 16)
  let nibble := value % 16
  let low := value % 256
  let byte := UInt8.ofNat low
  let address := Fin.ofNat 4096 value
  match value / 4096 with
  | 0x0 =>
      if value = 0x00e0 then .clear
      else if value = 0x00ee then .leave
      else .system address
  | 0x1 => .jump address
  | 0x2 => .call address
  | 0x3 => .skipIfByte x byte
  | 0x4 => .skipUnlessByte x byte
  | 0x5 => if nibble = 0 then .skipIfSame x y else .data word
  | 0x6 => .loadByte x byte
  | 0x7 => .addByte x byte
  | 0x8 => ofArithmetic x y word nibble
  | 0x9 => if nibble = 0 then .skipUnlessSame x y else .data word
  | 0xa => .loadIndex address
  | 0xb => .jumpFrom address
  | 0xc => .random x byte
  | 0xd => .draw x y (Fin.ofNat 16 nibble)
  | 0xe =>
      if low = 0x9e then .skipIfPressed x
      else if low = 0xa1 then .skipUnlessPressed x
      else .data word
  | _ => ofMiscellany x word low

def registerAnd (x : Register) (operand : String) : String :=
  Text.registerName x ++ ", " ++ operand

def byteText (byte : UInt8) : String :=
  Text.hexMarked 2 byte.toNat

def addressText (address : Fin 4096) : String :=
  Text.hexMarked 3 address.val

/-- The customary mnemonic with its operands. Sprite heights are decimal, all other numbers
hexadecimal. -/
def text : Instruction → String
  | .clear => "CLS"
  | .leave => "RET"
  | .system address => "SYS " ++ addressText address
  | .jump address => "JP " ++ addressText address
  | .call address => "CALL " ++ addressText address
  | .skipIfByte x byte => "SE " ++ registerAnd x (byteText byte)
  | .skipUnlessByte x byte => "SNE " ++ registerAnd x (byteText byte)
  | .skipIfSame x y => "SE " ++ registerAnd x (Text.registerName y)
  | .skipUnlessSame x y => "SNE " ++ registerAnd x (Text.registerName y)
  | .loadByte x byte => "LD " ++ registerAnd x (byteText byte)
  | .addByte x byte => "ADD " ++ registerAnd x (byteText byte)
  | .combine operation x y => operation.mnemonic ++ " " ++ registerAnd x (Text.registerName y)
  | .shiftRight x => "SHR " ++ Text.registerName x
  | .shiftLeft x => "SHL " ++ Text.registerName x
  | .loadIndex address => "LD I, " ++ addressText address
  | .jumpFrom address => "JP V0, " ++ addressText address
  | .random x byte => "RND " ++ registerAnd x (byteText byte)
  | .draw x y rows =>
      "DRW " ++ registerAnd x (registerAnd y (Text.decimal rows.val))
  | .skipIfPressed x => "SKP " ++ Text.registerName x
  | .skipUnlessPressed x => "SKNP " ++ Text.registerName x
  | .readDelay x => "LD " ++ registerAnd x "DT"
  | .awaitKey x => "LD " ++ registerAnd x "K"
  | .setDelay x => "LD DT, " ++ Text.registerName x
  | .setSound x => "LD ST, " ++ Text.registerName x
  | .addIndex x => "ADD I, " ++ Text.registerName x
  | .pointToGlyph x => "LD F, " ++ Text.registerName x
  | .storeDecimal x => "LD B, " ++ Text.registerName x
  | .storeRegisters x => "LD [I], " ++ Text.registerName x
  | .loadRegisters x => "LD " ++ registerAnd x "[I]"
  | .data word => "DW " ++ Text.hexMarked 4 word.toNat

end Instruction

def listingText (word : UInt16) : String :=
  (Instruction.decode word).text

end Chip8Inspector
