import Chip8Inspector.Text.Number

/-!
What a widget draws on. A surface shows a face and counts how often it was drawn, so that a
drawing that changed nothing can be told from none at all.
-/

set_option autoImplicit false

namespace Chip8Inspector

structure Face where
  text : String := ""
  highlighted : Bool := false
  deriving DecidableEq

structure Surface where
  face : Face := {}
  renders : Nat := 0
  deriving DecidableEq

/-- Puts a face on the surface. Every drawing counts, whatever was there before. -/
def Surface.draw (surface : Surface) (face : Face) : Surface :=
  { face := face, renders := surface.renders + 1 }

/-- Why a widget could not be made, found or brought up to date. Widgets are named by id. -/
inductive WidgetError where
  | invalidLength (widget : String) (expected found : Nat)
  | registerIndex (index : Nat)
  | missingChild (widget : String) (position : Nat)
  | missingTarget (id : String)
  | unbound (widget : String)
  deriving DecidableEq

def WidgetError.message : WidgetError → String
  | .invalidLength widget expected found =>
      widget ++ ": expected " ++ Text.decimal expected ++ " values, got " ++ Text.decimal found
  | .registerIndex index =>
      "variable register index " ++ Text.decimal index ++ " is out of range (0-15)"
  | .missingChild widget position =>
      widget ++ ": no child at position " ++ Text.decimal position
  | .missingTarget id => "no node mounted as '" ++ id ++ "'"
  | .unbound widget => widget ++ " is not bound to a snapshot field"

end Chip8Inspector
