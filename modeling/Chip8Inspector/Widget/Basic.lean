import Chip8Inspector.Widget.ListingPane

/-!
What it takes to stand on a board: an id, surfaces to show, and a way to be brought up to date
from a snapshot. `Gauge` gathers the inspector's own widgets; boards take any others as well.
-/

set_option autoImplicit false

namespace Chip8Inspector

def outcomeFor {V W : Type} (kind : V → W) (outcome : Except WidgetError Bool × V) :
    Except WidgetError Bool × W :=
  (outcome.1, kind outcome.2)

class Widget (W : Type) where
  id : W → String
  sync : W → Snapshot → Except WidgetError Bool × W
  render : W → W
  surface : W → Surface
  shown : W → List Surface

inductive Gauge where
  | readout (number : Readout)
  | registers (bank : RegisterBank)
  | listing (pane : ListingPane)
  deriving DecidableEq

namespace Gauge

def id : Gauge → String
  | .readout number => number.id
  | .registers _ => RegisterBank.id
  | .listing _ => ListingPane.id

def sync (gauge : Gauge) (snapshot : Snapshot) : Except WidgetError Bool × Gauge :=
  match gauge with
  | .readout number => outcomeFor .readout (number.sync snapshot)
  | .registers bank => outcomeFor .registers (bank.sync snapshot)
  | .listing pane => outcomeFor .listing (pane.sync snapshot)

def render : Gauge → Gauge
  | .readout number => .readout number.render
  | .registers bank => .registers bank.render
  | .listing pane => .listing pane.render

def surface : Gauge → Surface
  | .readout number => number.surface
  | .registers bank => bank.surface
  | .listing pane => pane.surface

/-- A composite shows its parts; only a readout shows its own surface. -/
def shown : Gauge → List Surface
  | .readout number => [number.surface]
  | .registers bank => bank.readouts.toList.map Readout.surface
  | .listing pane => pane.lines.map ListingLine.surface

end Gauge

instance : Widget Gauge where
  id := Gauge.id
  sync := Gauge.sync
  render := Gauge.render
  surface := Gauge.surface
  shown := Gauge.shown

/-- A widget that gives the same answer to every snapshot. It shows how a board treats widgets
that it knows nothing about. -/
structure Signpost where
  name : String
  answer : Except WidgetError Bool
  surface : Surface := {}

namespace Signpost

def render (signpost : Signpost) : Signpost :=
  { signpost with surface := signpost.surface.draw ⟨"stub " ++ signpost.name, true⟩ }

def sync (signpost : Signpost) (_ : Snapshot) : Except WidgetError Bool × Signpost :=
  match signpost.answer with
  | .ok true => (.ok true, signpost.render)
  | answer => (answer, signpost)

end Signpost

instance : Widget Signpost where
  id := Signpost.name
  sync := Signpost.sync
  render := Signpost.render
  surface := Signpost.surface
  shown signpost := [signpost.surface]

instance {V W : Type} [Widget V] [Widget W] : Widget (V ⊕ W) where
  id := Sum.elim Widget.id Widget.id
  sync
    | .inl widget, snapshot => outcomeFor .inl (Widget.sync widget snapshot)
    | .inr widget, snapshot => outcomeFor .inr (Widget.sync widget snapshot)
  render := Sum.map Widget.render Widget.render
  surface := Sum.elim Widget.surface Widget.surface
  shown := Sum.elim Widget.shown Widget.shown

end Chip8Inspector
