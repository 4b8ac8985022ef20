import Chip8Inspector.Decimal.Shortest
import Chip8Inspector.Text.Quoted

/-!
What can be wrong with a catalog's JSON text. Reading is one pass from left to right, and the
first thing that is wrong decides.
-/

set_option autoImplicit false

namespace Chip8Inspector.Json

inductive Found where
  | null
  | boolean (value : Bool)
  | integer (value : Int)
  | float (negative : Bool) (value : Decimal.Binary64)
  | string (value : String)
  | map
  | sequence
  deriving DecidableEq

def integerText (value : Int) : String :=
  (if value < 0 then "-" else "") ++ Text.decimal value.natAbs

def Found.text : Found → String
  | .null => "null"
  | .boolean value => "boolean `" ++ (if value then "true" else "false") ++ "`"
  | .integer value => "integer `" ++ integerText value ++ "`"
  | .float negative value => "floating point `" ++ Decimal.shortestText negative value ++ "`"
  | .string value => "string " ++ Text.quoted value
  | .map => "map"
  | .sequence => "sequence"

inductive Expected where
  | list
  | entry
  | field
  deriving DecidableEq

def Expected.text : Expected → String
  | .list => "a sequence"
  | .entry => "struct CatalogEntry"
  | .field => "a string"

inductive Field where
  | title
  | file
  deriving DecidableEq

def Field.name : Field → String
  | .title => "title"
  | .file => "file"

/-- JSON so far, but not a catalog. -/
inductive Mismatch where
  | wrongType (found : Found) (expected : Expected)
  | missingField (field : Field)
  | duplicateField (field : Field)
  | wrongLength (length : Nat)
  deriving DecidableEq

def Mismatch.text : Mismatch → String
  | .wrongType found expected =>
      "invalid type: " ++ found.text ++ ", expected " ++ expected.text
  | .missingField field => "missing field `" ++ field.name ++ "`"
  | .duplicateField field => "duplicate field `" ++ field.name ++ "`"
  | .wrongLength length =>
      "invalid length " ++ Text.decimal length ++
        ", expected struct CatalogEntry with 2 elements"

inductive JsonError where
  | illFormed
  /-- The text ended too early. -/
  | cutShort
  | mismatch (cause : Mismatch)
  deriving DecidableEq

end Chip8Inspector.Json
