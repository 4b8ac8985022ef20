/-!
Numbers as the inspector writes them: hexadecimal digits with zeros in front, plain decimal
digits, and the labelled form that shows a value in both bases. A width is always a minimum,
so no digit of a value is ever dropped. A width that comes from outside has a limit.
-/

set_option autoImplicit false

namespace Chip8Inspector.Text

/-- The lowercase hexadecimal digits of a value, most significant first, with zeros in front
up to `width` digits. Zero itself has one digit. -/
def hexDigits (width value : Nat) : List Char :=
  (Nat.toDigits 16 value).leftpad width '0'

def decimalDigits (value : Nat) : List Char :=
  Nat.toDigits 10 value

def hex (width value : Nat) : String :=
  String.ofList (hexDigits width value)

/-- Hexadecimal digits behind the marker `0x`, which does not count towards the width. -/
def hexMarked (width value : Nat) : String :=
  "0x" ++ hex width value

def decimal (value : Nat) : String :=
  String.ofList (decimalDigits value)

def labelled (label : String) (width value : Nat) : String :=
  label ++ ": " ++ hexMarked width value ++ " / " ++ decimal value

def widest : Nat := UInt16.size - 1

/-- Hexadecimal digits with or without their marker, unless the width is beyond the limit. -/
def hex? (marked : Bool) (width value : Nat) : Option String :=
  if widest < width then none
  else if marked then some (hexMarked width value)
  else some (hex width value)

def labelled? (label : String) (width value : Nat) : Option String :=
  if widest < width then none else some (labelled label width value)

def registerName (register : Fin 16) : String :=
  String.ofList ['V', (Nat.digitChar register.val).toUpper]

end Chip8Inspector.Text
