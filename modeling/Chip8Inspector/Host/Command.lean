import Chip8Inspector.Keypad.Layout

/-!
What the host asks of the inspector, and which strokes on a terminal's keyboard ask for it.
-/

set_option autoImplicit false

namespace Chip8Inspector

/-- Everything the host can ask for. Keys are named by strings, as the keypad layout reads them. -/
inductive Command where
  | keyDown (key : String)
  | keyUp (key : String)
  | togglePause
  | step
  | selectPrevious
  | selectNext
  | loadSelected
  | quit
  deriving DecidableEq

inductive KeyCode where
  | char (c : Char)
  | up
  | down
  | enter
  | escape
  | other
  deriving DecidableEq

inductive StrokeKind where
  | press
  | repeated
  | release
  deriving DecidableEq

structure Modifiers where
  shift : Bool := false
  control : Bool := false
  alt : Bool := false
  deriving DecidableEq

structure KeyStroke where
  code : KeyCode
  kind : StrokeKind := .press
  modifiers : Modifiers := {}
  deriving DecidableEq

namespace KeyStroke

/-- A fresh press of a character: Ctrl and `c` quit, a blank pauses, `n` steps, and any other
character goes to the keypad. -/
def pressedChar (c : Char) (control : Bool) : Command :=
  if c = 'c' ∧ control then .quit
  else if c = ' ' then .togglePause
  else if c = 'n' then .step
  else .keyDown (String.singleton c)

/-- The command that a stroke asks for. Controls act on the press alone; a repeat only keeps a
keypad key held, and a release only matters for characters. -/
def command? (stroke : KeyStroke) : Option Command :=
  match stroke.kind, stroke.code with
  | .release, .char c => some (.keyUp (String.singleton c))
  | .repeated, .char c =>
      if (Keypad.slotOfChar? c).isSome then some (.keyDown (String.singleton c)) else none
  | .press, .char c => some (pressedChar c stroke.modifiers.control)
  | .press, .up => some .selectPrevious
  | .press, .down => some .selectNext
  | .press, .enter => some .loadSelected
  | .press, .escape => some .quit
  | _, _ => none

end KeyStroke

end Chip8Inspector
