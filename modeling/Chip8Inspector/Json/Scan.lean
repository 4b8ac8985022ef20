import Chip8Inspector.Json.Error

/-!
The small parts of JSON text: blanks, words, strings and numbers. Every scanner takes its part
off the front of the text and gives what is left. A scanner that takes characters one after
another has fuel for that many of them; any number above the length of the text is enough.
-/

set_option autoImplicit false

namespace Chip8Inspector.Json

def isBlank (c : Char) : Bool :=
  c == ' ' || c == '\n' || c == '\t' || c == '\r'

def skipBlanks (text : List Char) : List Char :=
  text.dropWhile isBlank

def skipWord : List Char → List Char → Except JsonError (List Char)
  | [], text => .ok text
  | _ :: _, [] => .error .cutShort
  | expected :: word, c :: text =>
      if c = expected then skipWord word text else .error .illFormed

/-! ## Strings -/

def hexValue? (c : Char) : Option Nat :=
  if '0' ≤ c ∧ c ≤ '9' then some (c.toNat - '0'.toNat)
  else if 'a' ≤ c ∧ c ≤ 'f' then some (c.toNat - 'a'.toNat + 10)
  else if 'A' ≤ c ∧ c ≤ 'F' then some (c.toNat - 'A'.toNat + 10)
  else none

def hexValues? (a b c d : Char) : Option Nat := do
  let high := 16 * (← hexValue? a) + (← hexValue? b)
  let low := 16 * (← hexValue? c) + (← hexValue? d)
  return 256 * high + low

/-- Four hexadecimal digits. When fewer than four characters are left, the text is too short
for them only if it has fewer than four bytes. -/
def scanHex : List Char → Except JsonError (Nat × List Char)
  | a :: b :: c :: d :: rest =>
      match hexValues? a b c d with
      | none => .error .illFormed
      | some value => .ok (value, rest)
  | short =>
      if 4 ≤ (String.ofList short).utf8ByteSize then .error .illFormed else .error .cutShort

def isHighSurrogate (unit : Nat) : Bool :=
  0xd800 ≤ unit && unit ≤ 0xdbff

def isLowSurrogate (unit : Nat) : Bool :=
  0xdc00 ≤ unit && unit ≤ 0xdfff

def pairedUnits (high low : Nat) : Char :=
  Char.ofNat (0x10000 + 0x400 * (high - 0xd800) + (low - 0xdc00))

def scanLowSurrogate (high : Nat) : List Char → Except JsonError (Char × List Char)
  | [] => .error .cutShort
  | ['\\'] => .error .cutShort
  | '\\' :: 'u' :: rest => do
      let (low, later) ← scanHex rest
      if isLowSurrogate low then .ok (pairedUnits high low, later) else .error .illFormed
  | _ => .error .illFormed

/-- The escape behind `\u`. A surrogate without its partner is no character. -/
def scanUnicode (text : List Char) : Except JsonError (Char × List Char) := do
  let (unit, rest) ← scanHex text
  if isHighSurrogate unit then scanLowSurrogate unit rest
  else if isLowSurrogate unit then .error .illFormed
  else .ok (Char.ofNat unit, rest)

def simpleEscape? : Char → Option Char
  | '"' => some '"'
  | '\\' => some '\\'
  | '/' => some '/'
  | 'b' => some '\x08'
  | 'f' => some '\x0c'
  | 'n' => some '\n'
  | 'r' => some '\r'
  | 't' => some '\t'
  | _ => none

def scanEscape : List Char → Except JsonError (Char × List Char)
  | [] => .error .cutShort
  | 'u' :: rest => scanUnicode rest
  | c :: rest =>
      match simpleEscape? c with
      | none => .error .illFormed
      | some meant => .ok (meant, rest)

/-- An escape in a string that nobody reads: units of 16 bits are taken without asking whether
they are characters. -/
def skipEscape : List Char → Except JsonError (List Char)
  | [] => .error .cutShort
  | 'u' :: rest => (scanHex rest).map Prod.snd
  | c :: rest => if (simpleEscape? c).isSome then .ok rest else .error .illFormed

/-- A string behind its opening quotation mark, up to and with the closing one. What was read
already is given from its end. -/
def scanStringBehind (reversed : List Char) :
    Nat → List Char → Except JsonError (String × List Char)
  | 0, _ => .error .cutShort
  | _ + 1, [] => .error .cutShort
  | _ + 1, '"' :: rest => .ok (String.ofList reversed.reverse, rest)
  | fuel + 1, '\\' :: rest =>
      match scanEscape rest with
      | .error cause => .error cause
      | .ok (c, later) => scanStringBehind (c :: reversed) fuel later
  | fuel + 1, c :: rest =>
      if c.toNat < 0x20 then .error .illFormed
      else scanStringBehind (c :: reversed) fuel rest

def scanString (fuel : Nat) (text : List Char) : Except JsonError (String × List Char) :=
  scanStringBehind [] fuel text

def skipString : Nat → List Char → Except JsonError (List Char)
  | 0, _ => .error .cutShort
  | _ + 1, [] => .error .cutShort
  | _ + 1, '"' :: rest => .ok rest
  | fuel + 1, '\\' :: rest =>
      match skipEscape rest with
      | .error cause => .error cause
      | .ok later => skipString fuel later
  | fuel + 1, c :: rest =>
      if c.toNat < 0x20 then .error .illFormed else skipString fuel rest

/-! ## Numbers that nobody reads -/

def skipDigits (text : List Char) : List Char :=
  text.dropWhile Char.isDigit

/-- At least one digit. A text that ends here has no number in it. -/
def skipSomeDigits : List Char → Except JsonError (List Char)
  | c :: rest => if c.isDigit then .ok (skipDigits rest) else .error .illFormed
  | [] => .error .illFormed

def skipSign : List Char → List Char
  | '+' :: rest => rest
  | '-' :: rest => rest
  | text => text

def skipExponent : List Char → Except JsonError (List Char)
  | 'e' :: rest => skipSomeDigits (skipSign rest)
  | 'E' :: rest => skipSomeDigits (skipSign rest)
  | text => .ok text

def skipFraction : List Char → Except JsonError (List Char)
  | '.' :: rest => do
      let later ← skipSomeDigits rest
      skipExponent later
  | text => skipExponent text

def startsWithDigit : List Char → Bool
  | c :: _ => c.isDigit
  | [] => false

/-- A number behind its minus sign, if it has one. A zero in front stands alone. -/
def skipNumber : List Char → Except JsonError (List Char)
  | '0' :: rest => if startsWithDigit rest then .error .illFormed else skipFraction rest
  | c :: rest => if c.isDigit then skipFraction (skipDigits rest) else .error .illFormed
  | [] => .error .illFormed

end Chip8Inspector.Json
