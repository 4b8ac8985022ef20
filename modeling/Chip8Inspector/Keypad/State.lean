import Chip8Inspector.Keypad.Layout

/-!
Which keypad keys are down. Many terminals never report that a key was let go. Until the host
has reported one release, a press therefore holds its key down for a number of frames, counted
anew by every repeat; from the first report on, keys go up only when the host says so.
-/

set_option autoImplicit false

namespace Chip8Inspector

inductive KeyEdge where
  | down (key : Fin 16)
  | up (key : Fin 16)
  deriving DecidableEq

structure Keypad where
  pressed : Vector Bool 16
  /-- Frames that a pressed key still stays down. -/
  hold : Vector Nat 16
  holdFrames : Nat
  hostReleases : Bool

namespace Keypad

def idle (holdFrames : Nat) : Keypad where
  pressed := Vector.replicate 16 false
  hold := Vector.replicate 16 0
  holdFrames := holdFrames
  hostReleases := false

/-- The hold starts again even when the key was down already; the machine hears of it only
when the key was up. -/
def press (pad : Keypad) (key : Fin 16) : Keypad × List KeyEdge :=
  ({ pad with pressed := pad.pressed.set key true, hold := pad.hold.set key pad.holdFrames },
    if pad.pressed[key] then [] else [.down key])

def release (pad : Keypad) (key : Fin 16) : Keypad × List KeyEdge :=
  ({ pad with pressed := pad.pressed.set key false, hold := pad.hold.set key 0 },
    if pad.pressed[key] then [.up key] else [])

def keyDown (pad : Keypad) (key : String) : Keypad × List KeyEdge :=
  match slot? key with
  | none => (pad, [])
  | some slot => pad.press slot

/-- The host reports a key as let go. Even an unmapped key shows that releases are reported. -/
def keyUp (pad : Keypad) (key : String) : Keypad × List KeyEdge :=
  let trusting := { pad with hostReleases := true }
  match slot? key with
  | none => (trusting, [])
  | some slot => trusting.release slot

def expires (pad : Keypad) (key : Fin 16) : Bool :=
  pad.pressed[key] && pad.hold[key] ≤ 1

/-- One frame passed. Every key that is down has one frame less to stay down, and those whose
time is over go up, lowest key first. A host that reports releases needs none of this. -/
def tick (pad : Keypad) : Keypad × List KeyEdge :=
  if pad.hostReleases then (pad, [])
  else
    ({ pad with
        pressed := Vector.ofFn fun key => pad.pressed[key] && !pad.expires key
        hold := Vector.ofFn fun key =>
          if pad.pressed[key] then pad.hold[key] - 1 else pad.hold[key] },
      ((List.finRange 16).filter pad.expires).map .up)

end Keypad

end Chip8Inspector
