import Chip8Inspector.Text.Number

/-!
Run-time settings and the command line that overrides them: flag and value pairs, and at most
one other argument, the path of the catalog.
-/

set_option autoImplicit false

namespace Chip8Inspector

structure Window where
  before : Nat
  after : Nat
  deriving DecidableEq

structure Settings where
  catalog : String := "programs/catalog.json"
  frameRate : Nat := 60
  window : Window := ⟨4, 8⟩
  /-- For how many frames a key stays down while the terminal reports no releases; longer
  than the usual pause before a held key repeats. -/
  holdFrames : Nat := 30
  deriving DecidableEq

inductive SettingsError where
  | missingValue (flag : String)
  | invalidValue (flag value : String)
  | unknownOption (argument : String)
  deriving DecidableEq

def SettingsError.message : SettingsError → String
  | .missingValue flag => "missing value for " ++ flag
  | .invalidValue flag value => "invalid value '" ++ value ++ "' for " ++ flag
  | .unknownOption argument => "unknown option " ++ argument

namespace Settings

inductive Flag where
  | fps
  | before
  | after
  | hold
  deriving DecidableEq

def Flag.spelling : Flag → String
  | .fps => "--fps"
  | .before => "--before"
  | .after => "--after"
  | .hold => "--hold"

def Flag.ofArgument? (argument : String) : Option Flag :=
  [Flag.fps, .before, .after, .hold].find? fun flag => flag.spelling == argument

/-- The largest value a flag accepts: rates and frame counts have 32 bits, windows 16. -/
def Flag.limit : Flag → Nat
  | .fps | .hold => UInt32.size - 1
  | .before | .after => UInt16.size - 1

/-- A frame rate or hold of zero would stop the program, so those two must be positive. -/
def Flag.positive : Flag → Bool
  | .fps | .hold => true
  | .before | .after => false

def digitValue? (c : Char) : Option Nat :=
  if '0' ≤ c ∧ c ≤ '9' then some (c.toNat - '0'.toNat) else none

def digitsValue? (value : Nat) : List Char → Option Nat
  | [] => some value
  | c :: rest => do
      let digit ← digitValue? c
      digitsValue? (10 * value + digit) rest

def unsigned? : List Char → Option Nat
  | [] => none
  | ['+'] => none
  | '+' :: c :: rest => digitsValue? 0 (c :: rest)
  | c :: rest => digitsValue? 0 (c :: rest)

/-- The number that `text` gives for `flag`. A zero that must not be is reported as `0`
however it was spelled. -/
def Flag.read (flag : Flag) (text : String) : Except SettingsError Nat :=
  match unsigned? text.toList with
  | none => .error (.invalidValue flag.spelling text)
  | some value =>
      if flag.limit < value then .error (.invalidValue flag.spelling text)
      else if flag.positive && value == 0 then .error (.invalidValue flag.spelling "0")
      else .ok value

def set (settings : Settings) : Flag → Nat → Settings
  | .fps, value => { settings with frameRate := value }
  | .before, value => { settings with window := { settings.window with before := value } }
  | .after, value => { settings with window := { settings.window with after := value } }
  | .hold, value => { settings with holdFrames := value }

/-- The argument behind a flag is its value whatever it looks like. `seen` tells whether a
catalog path was given already. -/
def readFrom (settings : Settings) (seen : Bool) :
    List String → Except SettingsError Settings
  | [] => .ok settings
  | argument :: rest =>
      match Flag.ofArgument? argument with
      | some flag =>
          match rest with
          | [] => .error (.missingValue argument)
          | text :: later =>
              match flag.read text with
              | .error cause => .error cause
              | .ok value => readFrom (settings.set flag value) seen later
      | none =>
          if argument.startsWith "--" then .error (.unknownOption argument)
          else if seen then .error (.unknownOption argument)
          else readFrom { settings with catalog := argument } true rest

def ofArguments (arguments : List String) : Except SettingsError Settings :=
  readFrom {} false arguments

/-- The length of a frame in nanoseconds, rounded down. A rate of zero counts as one. -/
def frameNanoseconds (settings : Settings) : Nat :=
  1000000000 / max settings.frameRate 1

end Settings

end Chip8Inspector
