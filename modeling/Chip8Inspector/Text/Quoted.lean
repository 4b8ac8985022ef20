import Chip8Inspector.Text.Marks
import Chip8Inspector.Text.Number
import Chip8Inspector.Text.Unseen

/-!
How an error message shows a string that it was not expecting: between quotation marks, with
escapes for everything that would not be seen as itself. Those are the quotation mark and the
backslash, characters that show nothing, and marks that can only be written on the character
before them.
-/

set_option autoImplicit false

namespace Chip8Inspector.Text

/-- Whether a character shows as itself wherever it stands. -/
def isPlain (c : Char) : Bool :=
  !unseen.contains c && (!extending.contains c || isSoundMark c)

def escapeByCode (c : Char) : List Char :=
  '\\' :: 'u' :: '\x7b' :: (hexDigits 1 c.toNat ++ ['\x7d'])

def quotedChar (c : Char) : List Char :=
  if c = '"' then ['\\', '"']
  else if c = '\\' then ['\\', '\\']
  else if c = '\n' then ['\\', 'n']
  else if c = '\r' then ['\\', 'r']
  else if c = '\t' then ['\\', 't']
  else if c = '\x00' then ['\\', '0']
  else if isPlain c then [c]
  else escapeByCode c

def quoted (text : String) : String :=
  String.ofList ('"' :: (text.toList.flatMap quotedChar ++ ['"']))

end Chip8Inspector.Text
