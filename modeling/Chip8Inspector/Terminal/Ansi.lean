import Chip8Inspector.Host.Command
import Chip8Inspector.Terminal.Canvas
import Chip8Inspector.Text.Width

/-!
The language of a terminal that follows the ANSI standard: how a canvas is sent to it, and how
the characters that it sends are read as strokes on its keyboard.
-/

set_option autoImplicit false

namespace Chip8Inspector.Terminal

def introducer : String := "\x1b["

def Color.foregroundCode : Color → String
  | .reset => "39"
  | .yellow => "33"
  | .black => "30"
  | .green => "32"
  | .darkGray => "90"

def Color.backgroundCode : Color → String
  | .reset => "49"
  | .yellow => "43"
  | .black => "40"
  | .green => "42"
  | .darkGray => "100"

def Style.sequence (style : Style) : String :=
  introducer ++ "0;" ++ (if style.reversed then "7;" else "") ++
    style.foreground.foregroundCode ++ ";" ++ style.background.backgroundCode ++ "m"

/-- The cells of a row, with a style sequence wherever the style changes. The first `covered`
cells lie under the symbol before them and are not sent. -/
def rowText (style : Style) (covered : Nat) : List Cell → String
  | [] => ""
  | cell :: rest =>
      match covered with
      | more + 1 => rowText style more rest
      | 0 =>
          (if cell.style = style then "" else cell.style.sequence) ++ cell.symbol ++
            rowText cell.style (Text.columns cell.symbol.toList - 1) rest

def Canvas.text (canvas : Canvas) (width height : Nat) : String :=
  introducer ++ "H" ++ String.intercalate "\r\n"
    ((canvas.rows width height).map fun row => Style.sequence {} ++ rowText {} 0 row)

def openScreen : String :=
  introducer ++ "?1049h" ++ introducer ++ "?25l" ++ introducer ++ "2J"

def closeScreen : String :=
  Style.sequence {} ++ introducer ++ "?25h" ++ introducer ++ "?1049l"

def pressOf (code : KeyCode) : KeyStroke where
  code := code

/-- The strokes that a terminal reports. It reports presses only, and Ctrl with `c` as a
control character. -/
def strokes : List Char → List KeyStroke
  | '\x1b' :: '[' :: 'A' :: rest => pressOf .up :: strokes rest
  | '\x1b' :: '[' :: 'B' :: rest => pressOf .down :: strokes rest
  | '\x1b' :: '[' :: _ :: rest => pressOf .other :: strokes rest
  | '\x1b' :: rest => pressOf .escape :: strokes rest
  | '\r' :: rest => pressOf .enter :: strokes rest
  | '\n' :: rest => pressOf .enter :: strokes rest
  | '\x03' :: rest => { pressOf (.char 'c') with modifiers := { control := true } } :: strokes rest
  | c :: rest => pressOf (.char c) :: strokes rest
  | [] => []

end Chip8Inspector.Terminal
