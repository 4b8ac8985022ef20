import Chip8Inspector.Json.Scan

/-!
The value of a number that stands where something else was expected, for the error message. A
number that is too large for double precision is an error of its own. Whole numbers of 64 bits
are exact; any other number keeps as many leading digits as 64 bits can hold.
-/

set_option autoImplicit false

namespace Chip8Inspector.Json

def digitOf (c : Char) : Nat :=
  c.toNat - '0'.toNat

def exactLimit : Nat := UInt64.size - 1

def exactDigits (value : Nat) : List Char → Nat × List Char
  | [] => (value, [])
  | c :: rest =>
      if exactLimit < 10 * value + digitOf c then (value, c :: rest)
      else exactDigits (10 * value + digitOf c) rest

def toFloat (negative : Bool) (digits : Nat) (exponent : Int) : Except JsonError Found :=
  match Decimal.Binary64.ofDecimal digits exponent with
  | none => .error .illFormed
  | some value => .ok (.float negative value)

/-- Larger exponents are not even computed: such a number is zero or too large. -/
def exponentLimit : Nat := UInt32.size / 2 - 1

def readExponent (negative : Bool) (digits : Nat) (exponent : Int) (text : List Char) :
    Except JsonError Found :=
  let downwards := text.head? == some '-'
  let behind := skipSign text
  match behind with
  | [] => .error .cutShort
  | _ =>
      let written := behind.takeWhile Char.isDigit
      if written.isEmpty then .error .illFormed
      else
        let size := written.foldl (fun value c => 10 * value + digitOf c) 0
        if exponentLimit < size then
          if digits = 0 || downwards then .ok (.float negative .zero) else .error .illFormed
        else toFloat negative digits (if downwards then exponent - size else exponent + size)

def readTail (negative : Bool) (digits : Nat) (exponent : Int) :
    List Char → Except JsonError Found
  | 'e' :: rest => readExponent negative digits exponent rest
  | 'E' :: rest => readExponent negative digits exponent rest
  | _ => toFloat negative digits exponent

def readFraction (negative : Bool) (digits : Nat) (exponent : Int) (text : List Char) :
    Except JsonError Found :=
  match text with
  | [] => .error .cutShort
  | _ =>
      let written := text.takeWhile Char.isDigit
      if written.isEmpty then .error .illFormed
      else
        let (value, ignored) := exactDigits digits written
        readTail negative value (exponent - (written.length - ignored.length : Nat))
          (skipDigits text)

/-- A whole number, or a float when it is negative and zero or below what 64 bits can hold. -/
def wholeNumber (negative : Bool) (value : Nat) : Except JsonError Found :=
  if negative then
    if 0 < value ∧ value ≤ UInt64.size / 2 then .ok (.integer (-(value : Int)))
    else toFloat true value 0
  else .ok (.integer value)

def readNumber (negative : Bool) (text : List Char) : Except JsonError Found :=
  match text with
  | [] => .error .cutShort
  | first :: behind =>
      if !first.isDigit then .error .illFormed
      else if first = '0' && startsWithDigit behind then .error .illFormed
      else
        let written := text.takeWhile Char.isDigit
        let (value, ignored) := exactDigits 0 written
        match skipDigits text with
        | '.' :: rest => readFraction negative value ignored.length rest
        | 'e' :: rest => readExponent negative value ignored.length rest
        | 'E' :: rest => readExponent negative value ignored.length rest
        | _ =>
            if ignored.isEmpty then wholeNumber negative value
            else toFloat negative value ignored.length

/-- What stands at the front of the text where an `expected` should. The error is the one of
the value itself, if it has one. -/
def refuse {α : Type} (fuel : Nat) (expected : Expected) (text : List Char) :
    Except JsonError α := do
  let found ←
    match text with
    | 'n' :: rest => (skipWord ['u', 'l', 'l'] rest).map fun _ => Found.null
    | 't' :: rest => (skipWord ['r', 'u', 'e'] rest).map fun _ => Found.boolean true
    | 'f' :: rest => (skipWord ['a', 'l', 's', 'e'] rest).map fun _ => Found.boolean false
    | '-' :: rest => readNumber true rest
    | '"' :: rest => (scanString fuel rest).map fun string => Found.string string.1
    | '[' :: _ => .ok .sequence
    | '\x7b' :: _ => .ok .map
    | c :: _ => if c.isDigit then readNumber false text else .error .illFormed
    | [] => .error .cutShort
  .error (.mismatch (.wrongType found expected))

end Chip8Inspector.Json
