import Chip8Inspector.Catalog.Error
import Chip8Inspector.Log.Journal
import Chip8Inspector.Widget.Surface

/-!
Everything that the inspector reports. Each notice has one level and one text, so a message is
worded in one place only.
-/

set_option autoImplicit false

namespace Chip8Inspector

inductive Phase where
  | unstarted
  | running
  | paused
  /-- Inside a single step, which always ends in `paused`. -/
  | stepping
  deriving DecidableEq

def Phase.name : Phase → String
  | .unstarted => "Unstarted"
  | .running => "Running"
  | .paused => "Paused"
  | .stepping => "Stepping"

inductive Notice where
  | loopStarted
  | paused
  | resumed
  | pausedForStepping
  | pauseIgnored (phase : Phase)
  | stepFailed (cause : MachineError)
  | snapshotFailed (cause : MachineError)
  | noSnapshotAfterLoad (cause : MachineError)
  | widgetFailed (cause : WidgetError)
  | releasesReported
  | catalogInstalled (count : Nat)
  | catalogFailed (cause : CatalogError)
  | fetching (title path : String)
  | superseded (title : String)
  | loadFailed (cause : LoadError)
  | programRefused (title : String) (cause : MachineError)
  | loaded (title : String) (size : Nat)
  | quit (frames : Nat)

namespace Notice

open Log

def level : Notice → Level
  | .loopStarted | .paused | .resumed | .pausedForStepping => .info
  | .pauseIgnored _ => .debug
  | .stepFailed _ | .snapshotFailed _ | .noSnapshotAfterLoad _ | .widgetFailed _ => .warn
  | .releasesReported => .debug
  | .catalogInstalled _ => .info
  | .catalogFailed _ => .error
  | .fetching _ _ | .superseded _ => .debug
  | .loadFailed _ | .programRefused _ _ => .error
  | .loaded _ _ | .quit _ => .info

def text : Notice → String
  | .loopStarted => "frame loop started"
  | .paused => "paused"
  | .resumed => "resumed"
  | .pausedForStepping => "paused for stepping"
  | .pauseIgnored phase => "pause toggle ignored while " ++ phase.name
  | .stepFailed cause => "frame abandoned, step failed: " ++ cause.message
  | .snapshotFailed cause => "frame abandoned, snapshot failed: " ++ cause.message
  | .noSnapshotAfterLoad cause => "no snapshot after load: " ++ cause.message
  | .widgetFailed cause => cause.message
  | .releasesReported => "host reports key releases; hold timer off"
  | .catalogInstalled count => "catalog has " ++ Text.decimal count ++ " programs"
  | .catalogFailed cause => cause.message
  | .fetching title path => "fetching " ++ title ++ " from " ++ path
  | .superseded title => "dropping superseded load of " ++ title
  | .loadFailed cause => cause.message
  | .programRefused title cause => "can't load " ++ title ++ ": " ++ cause.message
  | .loaded title size => "loaded " ++ title ++ " (" ++ Text.decimal size ++ " bytes)"
  | .quit frames => "quit after " ++ Text.decimal frames ++ " frames"

def record (notice : Notice) : Record :=
  ⟨notice.level, notice.text⟩

end Notice

end Chip8Inspector
