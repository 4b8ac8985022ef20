import Chip8Inspector.Machine.Instruction
import Chip8Inspector.Proofs.ReadableFaces

/-!
# A text of the listing stands for one instruction

A text is a mnemonic with operands behind it. Without its commas it falls apart at the blanks, and
each operand can be told from its first characters and its length, so that mnemonic and operands
give the instruction back.
-/

namespace Chip8Inspector

set_option autoImplicit false

namespace Instruction

/-- What an operand can name besides registers and numbers. -/
inductive Place where
  | index
  | indexed
  | delay
  | sound
  | key
  | glyph
  | decimal
  deriving DecidableEq

def Place.letters : Place → List Char
  | .index => ['I']
  | .indexed => ['[', 'I', ']']
  | .delay => ['D', 'T']
  | .sound => ['S', 'T']
  | .key => ['K']
  | .glyph => ['F']
  | .decimal => ['B']

inductive Operand where
  | register (x : Register)
  | byte (value : UInt8)
  | address (value : Fin 4096)
  | word (value : UInt16)
  | rows (count : Fin 16)
  | place (name : Place)
  deriving DecidableEq

namespace Operand

def letters : Operand → List Char
  | .register x => ['V', (Nat.digitChar x.val).toUpper]
  | .byte value => '0' :: 'x' :: Text.hexDigits 2 value.toNat
  | .address value => '0' :: 'x' :: Text.hexDigits 3 value.val
  | .word value => '0' :: 'x' :: Text.hexDigits 4 value.toNat
  | .rows count => Text.decimalDigits count.val
  | .place name => name.letters

/-- A hexadecimal number of some digits. -/
def ofDigits (digits : List Char) : Operand :=
  let value := Text.numberOf 16 digits
  match digits.length with
  | 2 => .byte (UInt8.ofNat value)
  | 3 => .address (BitVec.ofNat 12 value).toFin
  | _ => .word (UInt16.ofNat value)

def read : List Char → Operand
  | ['V', digit] => .register (BitVec.ofNat 4 (Text.digitValue digit.toLower)).toFin
  | '0' :: 'x' :: digits => ofDigits digits
  | ['I'] => .place .index
  | ['[', 'I', ']'] => .place .indexed
  | ['D', 'T'] => .place .delay
  | ['S', 'T'] => .place .sound
  | ['K'] => .place .key
  | ['F'] => .place .glyph
  | ['B'] => .place .decimal
  | digits => .rows (BitVec.ofNat 4 (Text.numberOf 10 digits)).toFin

end Operand

def mnemonic : Instruction → List Char
  | .clear => ['C', 'L', 'S']
  | .leave => ['R', 'E', 'T']
  | .system _ => ['S', 'Y', 'S']
  | .jump _ | .jumpFrom _ => ['J', 'P']
  | .call _ => ['C', 'A', 'L', 'L']
  | .skipIfByte .. | .skipIfSame .. => ['S', 'E']
  | .skipUnlessByte .. | .skipUnlessSame .. => ['S', 'N', 'E']
  | .addByte .. | .addIndex _ => ['A', 'D', 'D']
  | .combine operation _ _ => operation.mnemonic.toList
  | .shiftRight _ => ['S', 'H', 'R']
  | .shiftLeft _ => ['S', 'H', 'L']
  | .random .. => ['R', 'N', 'D']
  | .draw .. => ['D', 'R', 'W']
  | .skipIfPressed _ => ['S', 'K', 'P']
  | .skipUnlessPressed _ => ['S', 'K', 'N', 'P']
  | .data _ => ['D', 'W']
  | .loadByte .. | .loadIndex _ | .readDelay _ | .awaitKey _ | .setDelay _ | .setSound _
  | .pointToGlyph _ | .storeDecimal _ | .storeRegisters _ | .loadRegisters _ => ['L', 'D']

/-- Without what stands between the parts of a text. -/
def Plain (letters : List Char) : Prop :=
  ',' ∉ letters ∧ ' ' ∉ letters

instance (letters : List Char) : Decidable (Plain letters) :=
  inferInstanceAs (Decidable (_ ∧ _))

end Instruction

end Chip8Inspector
