import Chip8Inspector.Machine.Memory

/-!
The display page seen as 64 by 32 pixels. A row has eight bytes, and the leftmost pixel of a
byte is its highest bit. Sprites are eight pixels wide and go on at the opposite edge.
-/

set_option autoImplicit false

namespace Chip8Inspector

structure Pixel where
  x : Fin 64
  y : Fin 32
  deriving DecidableEq

namespace Pixel

/-- The pixel at a column and row that go on from zero past the edges. -/
def around (column row : Nat) : Pixel :=
  ⟨Fin.ofNat 64 column, Fin.ofNat 32 row⟩

def address (pixel : Pixel) : Fin 4096 :=
  ⟨0xf00 + (64 * pixel.y.val + pixel.x.val) / 8, by omega⟩

def mask (pixel : Pixel) : UInt8 :=
  0x80 >>> UInt8.ofNat (pixel.x.val % 8)

end Pixel

def rowBit (row : UInt8) (bit : Nat) : Bool :=
  row &&& (0x80 >>> UInt8.ofNat bit) != 0

/-- The pixels that a sprite touches when its top left corner is at `left` and `top`: those
under the set bits of its rows. -/
def spritePixels (left top : Nat) (rows : List UInt8) : List Pixel :=
  rows.zipIdx.flatMap fun (row, down) =>
    ((List.range 8).filter (rowBit row)).map fun right => Pixel.around (left + right) (top + down)

namespace Memory

def lit (memory : Memory) (pixel : Pixel) : Bool :=
  memory.bytes[pixel.address] &&& pixel.mask != 0

def flip (memory : Memory) (pixel : Pixel) : Memory where
  bytes := memory.bytes.set pixel.address (memory.bytes[pixel.address] ^^^ pixel.mask)

/-- Turns the given pixels over one after another, and tells whether one was lit before its
turn. -/
def flipAll (memory : Memory) : List Pixel → Memory × Bool
  | [] => (memory, false)
  | pixel :: rest =>
      let (flipped, collided) := (memory.flip pixel).flipAll rest
      (flipped, memory.lit pixel || collided)

def screen (memory : Memory) : String :=
  String.ofList <| (List.finRange 32).flatMap fun y =>
    (List.finRange 64).map (fun x => if memory.lit ⟨x, y⟩ then '◼' else ' ') ++ ['\n']

end Memory

end Chip8Inspector
