/-!
How grave a message is, and which messages a reader asked to see.
-/

set_option autoImplicit false

namespace Chip8Inspector.Log

inductive Level where
  | error
  | warn
  | info
  | debug
  | trace
  deriving DecidableEq

def Level.rank : Level → Nat
  | .error => 1
  | .warn => 2
  | .info => 3
  | .debug => 4
  | .trace => 5

/-- Every tag is five columns wide, so the texts of a message panel line up. -/
def Level.tag : Level → String
  | .error => "ERROR"
  | .warn => "WARN "
  | .info => "INFO "
  | .debug => "DEBUG"
  | .trace => "TRACE"

/-- Which levels pass: none at all, or everything at least as grave as the given one. -/
inductive Threshold where
  | off
  | upTo (level : Level)
  deriving DecidableEq

def Threshold.rank : Threshold → Nat
  | .off => 0
  | .upTo level => level.rank

def Threshold.admits (threshold : Threshold) (level : Level) : Bool :=
  level.rank ≤ threshold.rank

def Threshold.stricter (first second : Threshold) : Threshold :=
  if first.rank ≤ second.rank then first else second

end Chip8Inspector.Log
