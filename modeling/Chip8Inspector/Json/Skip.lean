import Chip8Inspector.Json.Scan

/-!
Values that nobody reads are only checked for being JSON. They may be nested to any depth, so
the brackets that are open are kept in a list.
-/

set_option autoImplicit false

namespace Chip8Inspector.Json

inductive Bracket where
  | list
  | object
  deriving DecidableEq

def skipName (fuel : Nat) (text : List Char) : Except JsonError (List Char) :=
  match skipBlanks text with
  | '"' :: rest =>
      match skipString fuel rest with
      | .error cause => .error cause
      | .ok behindName =>
          match skipBlanks behindName with
          | ':' :: value => .ok value
          | [] => .error .cutShort
          | _ => .error .illFormed
  | [] => .error .cutShort
  | _ => .error .illFormed

def skipScalar (fuel : Nat) (text : List Char) : Except JsonError (List Char) :=
  match text with
  | [] => .error .cutShort
  | 'n' :: rest => skipWord ['u', 'l', 'l'] rest
  | 't' :: rest => skipWord ['r', 'u', 'e'] rest
  | 'f' :: rest => skipWord ['a', 'l', 's', 'e'] rest
  | '-' :: rest => skipNumber rest
  | '"' :: rest => skipString fuel rest
  | c :: rest => if c.isDigit then skipNumber (c :: rest) else .error .illFormed

/-- Where reading goes on: at the beginning of a value or behind the end of one, and inside
which brackets, the innermost first. -/
structure Position where
  behindValue : Bool
  brackets : List Bracket
  text : List Char

/-- Opens a bracket. A list or object without anything in it is a value that has ended. -/
def openBracket (fuel : Nat) (brackets : List Bracket) (bracket : Bracket)
    (text : List Char) : Except JsonError Position :=
  match bracket, skipBlanks text with
  | .list, ']' :: rest => .ok ⟨true, brackets, rest⟩
  | .object, '\x7d' :: rest => .ok ⟨true, brackets, rest⟩
  | .list, _ => .ok ⟨false, .list :: brackets, text⟩
  | .object, _ => (skipName fuel text).map fun value => ⟨false, .object :: brackets, value⟩

def enterValue (fuel : Nat) (brackets : List Bracket) (text : List Char) :
    Except JsonError Position :=
  match skipBlanks text with
  | '[' :: rest => openBracket fuel brackets .list rest
  | '\x7b' :: rest => openBracket fuel brackets .object rest
  | scalar => (skipScalar fuel scalar).map fun rest => ⟨true, brackets, rest⟩

def leaveValue (fuel : Nat) (bracket : Bracket) (outer : List Bracket) (text : List Char) :
    Except JsonError Position :=
  match bracket, skipBlanks text with
  | .list, ']' :: rest => .ok ⟨true, outer, rest⟩
  | .object, '\x7d' :: rest => .ok ⟨true, outer, rest⟩
  | .list, ',' :: rest => .ok ⟨false, .list :: outer, rest⟩
  | .object, ',' :: rest =>
      (skipName fuel rest).map fun value => ⟨false, .object :: outer, value⟩
  | _, [] => .error .cutShort
  | _, _ => .error .illFormed

def skipFrom (limit : Nat) : Nat → Position → Except JsonError (List Char)
  | 0, _ => .error .cutShort
  | fuel + 1, ⟨behindValue, brackets, text⟩ =>
      match behindValue, brackets with
      | true, [] => .ok text
      | true, bracket :: outer =>
          match leaveValue limit bracket outer text with
          | .error cause => .error cause
          | .ok next => skipFrom limit fuel next
      | false, _ =>
          match enterValue limit brackets text with
          | .error cause => .error cause
          | .ok next => skipFrom limit fuel next

/-- A value. Every step but the last takes characters. -/
def skipValue (fuel : Nat) (text : List Char) : Except JsonError (List Char) :=
  skipFrom fuel (fuel + 1) ⟨false, [], text⟩

end Chip8Inspector.Json
