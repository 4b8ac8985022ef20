import Chip8Inspector.Files.Error
import Chip8Inspector.Json.Error
import Chip8Inspector.Machine.Basic

/-!
Why a catalog cannot be used, and why a program could not be fetched.
-/

set_option autoImplicit false

namespace Chip8Inspector

inductive CatalogError where
  | empty
  | malformed (cause : Json.JsonError)
  | read (path : String) (cause : FileError)
  deriving DecidableEq

def CatalogError.message : CatalogError → String
  | .empty => "program catalog is empty"
  | .malformed _ => "program catalog is malformed"
  | .read path cause => "failed to read program catalog " ++ path ++ ": " ++ cause.message

inductive LoadError where
  | read (path : String) (cause : FileError)
  | empty (path : String)
  deriving DecidableEq

def LoadError.message : LoadError → String
  | .read path cause => "failed to read " ++ path ++ ": " ++ cause.message
  | .empty path => path ++ " is empty"

end Chip8Inspector
