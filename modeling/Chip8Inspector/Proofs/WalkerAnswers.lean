import Chip8Inspector.Machine.Walker

/-!
# What a walker answers

A refused operation leaves a walker as it was. Its snapshot is never refused: every location that
a window lists has its two bytes inside memory. The keys are in no snapshot.
-/

namespace Chip8Inspector

set_option autoImplicit false

namespace Walker

theorem advance_refused {walker : Walker} {cause : MachineError}
    (refused : walker.advance = .error cause) :
    Machine.advance walker = (.error cause, walker) := by
  show Machine.keepingOnError walker walker.advance () = _
  rw [refused]
  rfl

theorem advance_granted {walker advanced : Walker} (granted : walker.advance = .ok advanced) :
    Machine.advance walker = (.ok (), advanced) := by
  show Machine.keepingOnError walker walker.advance () = _
  rw [granted]
  rfl

theorem load_refused {walker : Walker} {program : Program} {cause : MachineError}
    (refused : walker.load program = .error cause) :
    Machine.load walker program = (.error cause, walker) := by
  show Machine.keepingOnError walker (walker.load program) () = _
  rw [refused]
  rfl

theorem load_granted {walker loaded : Walker} {program : Program}
    (granted : walker.load program = .ok loaded) :
    Machine.load walker program = (.ok (), loaded) := by
  show Machine.keepingOnError walker (walker.load program) () = _
  rw [granted]
  rfl

theorem machine_snapshot (walker : Walker) (window : Window) :
    Machine.snapshot walker window = (walker.snapshot window, walker) :=
  rfl

theorem listed_location_bound (walker : Walker) (window : Window) {location : Nat}
    (member : location ∈ walker.listedLocations window) : location + 1 < 4096 := by
  unfold listedLocations at member
  dsimp only at member
  obtain ⟨index, inside, rfl⟩ := List.mem_range'.mp member
  have edge : min (walker.programCounter.toNat + 2 * window.after) (Memory.size - 2) ≤ 4094 :=
    Nat.min_le_right _ _
  omega

theorem listedWord_isSome (walker : Walker) {location : Nat} (bound : location + 1 < 4096) :
    (walker.listedWord? location).isSome = true := by
  unfold listedWord? Memory.pair?
  rw [dif_pos bound]
  rfl

/-- A walker can be photographed in every state and through every window. -/
theorem snapshot_succeeds (walker : Walker) (window : Window) :
    ∃ snapshot, walker.snapshot window = .ok snapshot := by
  have listed : ∀ locations : List Nat, (∀ location ∈ locations, location + 1 < 4096) →
      ∃ listing, locations.mapM walker.listedWord? = some listing := by
    intro locations inside
    induction locations with
    | nil => exact ⟨[], rfl⟩
    | cons location rest ih =>
        rcases Option.isSome_iff_exists.mp
          (listedWord_isSome walker (inside location List.mem_cons_self)) with ⟨word, first⟩
        rcases ih fun other member => inside other (List.mem_cons_of_mem _ member) with
          ⟨listing, later⟩
        exact ⟨word :: listing, by simp [List.mapM_cons, first, later]⟩
  rcases listed _ fun _ member => listed_location_bound walker window member with
    ⟨listing, known⟩
  unfold snapshot
  rw [known]
  exact ⟨_, rfl⟩

theorem snapshot_setKey (walker : Walker) (key : UInt8) (down : Bool) (window : Window) :
    (walker.setKey key down).snapshot window = walker.snapshot window := by
  unfold setKey
  split <;> rfl

theorem snapshot_hearAll (walker : Walker) (edges : List KeyEdge) (window : Window) :
    (Machine.hearAll walker edges).snapshot window = walker.snapshot window := by
  induction edges generalizing walker with
  | nil => rfl
  | cons edge later ih =>
      refine (ih (Machine.hear walker edge)).trans ?_
      cases edge with
      | down key => exact snapshot_setKey walker _ true window
      | up key => exact snapshot_setKey walker _ false window

end Walker

end Chip8Inspector
