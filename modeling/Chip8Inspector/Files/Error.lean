/-!
Why a file could not be read.
-/

set_option autoImplicit false

namespace Chip8Inspector

inductive FileError where
  | notFound
  | notDirectory
  | isDirectory
  | notText
  | nulInPath
  | nameTooLong
  | other (text : String)
  deriving DecidableEq

def FileError.message : FileError → String
  | .notFound => "No such file or directory (os error 2)"
  | .notDirectory => "Not a directory (os error 20)"
  | .isDirectory => "Is a directory (os error 21)"
  | .notText => "stream did not contain valid UTF-8"
  | .nulInPath => "file name contained an unexpected NUL byte"
  | .nameTooLong => "File name too long (os error 36)"
  | .other text => text

end Chip8Inspector
