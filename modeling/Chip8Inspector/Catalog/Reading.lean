import Chip8Inspector.Catalog.Entry
import Chip8Inspector.Json.Number
import Chip8Inspector.Json.Skip

/-!
A catalog is written as a JSON list. An entry of it is an object with a title and a file, once
each and in either order, among any other members; or a list of just these two strings.
The fuel of every reader is the same number, which is above the length of the whole text.
-/

set_option autoImplicit false

namespace Chip8Inspector.Json

def readField (fuel : Nat) (text : List Char) : Except JsonError (String × List Char) :=
  match skipBlanks text with
  | [] => .error .cutShort
  | '"' :: rest => scanString fuel rest
  | other => refuse fuel .field other

/-- The two strings of an entry without member names, behind the opening bracket. -/
def readPair (fuel : Nat) (text : List Char) : Except JsonError (Entry × List Char) :=
  match skipBlanks text with
  | [] => .error .cutShort
  | ']' :: _ => .error (.mismatch (.wrongLength 0))
  | _ => do
      let (title, behindTitle) ← readField fuel text
      match skipBlanks behindTitle with
      | [] => .error .cutShort
      | ']' :: _ => .error (.mismatch (.wrongLength 1))
      | ',' :: second =>
          match skipBlanks second with
          | [] => .error .cutShort
          | ']' :: _ => .error .illFormed
          | _ => do
              let (file, behindFile) ← readField fuel second
              match skipBlanks behindFile with
              | [] => .error .cutShort
              | ']' :: rest => .ok (⟨title, file⟩, rest)
              | _ => .error .illFormed
      | _ => .error .illFormed

structure Fields where
  title : Option String := none
  file : Option String := none

/-- The entry, once its members have ended. The title is asked for first. -/
def Fields.entry (fields : Fields) : Except JsonError Entry :=
  match fields.title, fields.file with
  | none, _ => .error (.mismatch (.missingField .title))
  | some _, none => .error (.mismatch (.missingField .file))
  | some title, some file => .ok ⟨title, file⟩

def skipColon (text : List Char) : Except JsonError (List Char) :=
  match skipBlanks text with
  | ':' :: rest => .ok rest
  | [] => .error .cutShort
  | _ => .error .illFormed

/-- The rest of a member behind its name. A field that was read before is refused before its
value is looked at. -/
def readMember (fuel : Nat) (fields : Fields) (name : String) (text : List Char) :
    Except JsonError (Fields × List Char) :=
  if name = Field.title.name then
    if fields.title.isSome then .error (.mismatch (.duplicateField .title))
    else do
      let (title, rest) ← readField fuel (← skipColon text)
      .ok ({ fields with title := some title }, rest)
  else if name = Field.file.name then
    if fields.file.isSome then .error (.mismatch (.duplicateField .file))
    else do
      let (file, rest) ← readField fuel (← skipColon text)
      .ok ({ fields with file := some file }, rest)
  else do
    let rest ← skipValue fuel (← skipColon text)
    .ok (fields, rest)

def readMembers (limit : Nat) :
    Nat → Fields → List Char → Except JsonError (Entry × List Char)
  | 0, _, _ => .error .cutShort
  | fuel + 1, fields, text => do
      let (name, behindName) ← scanString limit text
      let (fields, rest) ← readMember limit fields name behindName
      match skipBlanks rest with
      | [] => .error .cutShort
      | '\x7d' :: later => do
          let entry ← fields.entry
          .ok (entry, later)
      | ',' :: later =>
          match skipBlanks later with
          | [] => .error .cutShort
          | '"' :: next => readMembers limit fuel fields next
          | _ => .error .illFormed
      | _ => .error .illFormed

def readObject (fuel : Nat) (text : List Char) : Except JsonError (Entry × List Char) :=
  match skipBlanks text with
  | [] => .error .cutShort
  | '\x7d' :: rest => do
      let entry ← Fields.entry {}
      .ok (entry, rest)
  | '"' :: rest => readMembers fuel fuel {} rest
  | _ => .error .illFormed

def readEntry (fuel : Nat) (text : List Char) : Except JsonError (Entry × List Char) :=
  match skipBlanks text with
  | [] => .error .cutShort
  | '[' :: rest => readPair fuel rest
  | '\x7b' :: rest => readObject fuel rest
  | other => refuse fuel .entry other

/-- The entries of the list, at least one, up to and with the closing bracket. Those that were
read already are given from their end. -/
def readEntries (limit : Nat) (reversed : List Entry) :
    Nat → List Char → Except JsonError (List Entry × List Char)
  | 0, _ => .error .cutShort
  | fuel + 1, text => do
      let (entry, rest) ← readEntry limit text
      match skipBlanks rest with
      | [] => .error .cutShort
      | ']' :: later => .ok ((entry :: reversed).reverse, later)
      | ',' :: later =>
          match skipBlanks later with
          | [] => .error .cutShort
          | ']' :: _ => .error .illFormed
          | next => readEntries limit (entry :: reversed) fuel next
      | _ => .error .illFormed

def readCatalog (text : List Char) : Except JsonError (List Entry) := do
  let fuel := text.length + 1
  let (entries, rest) ←
    match skipBlanks text with
    | [] => .error .cutShort
    | '[' :: rest =>
        match skipBlanks rest with
        | ']' :: later => .ok ([], later)
        | _ => readEntries fuel [] fuel rest
    | other => refuse fuel .list other
  match skipBlanks rest with
  | [] => .ok entries
  | _ => .error .illFormed

end Chip8Inspector.Json
