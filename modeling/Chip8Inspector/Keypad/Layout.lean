/-!
Which key of the host's keyboard stands for which of the sixteen keypad keys. The left-hand
block of a typewriter keyboard is laid over the four by four keypad, row by row.
-/

set_option autoImplicit false

namespace Chip8Inspector.Keypad

def layout : Vector Char 16 :=
  #v['1', '2', '3', '4',
     'q', 'w', 'e', 'r',
     'a', 's', 'd', 'f',
     'z', 'x', 'c', 'v']

def slotOfChar? (c : Char) : Option (Fin 16) :=
  layout.finIdxOf? c.toLower

/-- A host key is named by a string. Only a single character can be mapped, in either ASCII
case; any other name belongs to no keypad key. -/
def slot? (key : String) : Option (Fin 16) :=
  match key.toList with
  | [c] => slotOfChar? c
  | _ => none

end Chip8Inspector.Keypad
