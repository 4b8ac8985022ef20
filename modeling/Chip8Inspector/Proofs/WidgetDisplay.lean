import Chip8Inspector.Board

/-!
# What the widgets display

Widgets skip work when they believe that nothing changed, so what a surface shows depends on a
history of updates. A widget *displays* a value when it holds that value and each of its surfaces
shows what is held. Making and drawing establish this, every update keeps it, and after an update
the value displayed is the one that was given, whatever was displayed before.
-/

namespace Chip8Inspector

set_option autoImplicit false

/-- The readout is `kind` in all that never changes, and holds and shows `value`. -/
structure Readout.Displays (number kind : Readout) (value : Nat) : Prop where
  holds : number = { kind with value := value, surface := number.surface }
  drawn : number.surface.face = number.face

theorem readout_make_displays (id label : String) (width : Nat)
    (field : Option SnapshotField) :
    (Readout.make id label width field).Displays (Readout.make id label width field) 0 :=
  ⟨rfl, rfl⟩

theorem readout_render_displays {number kind : Readout} {value : Nat}
    (displays : number.Displays kind value) : number.render.Displays kind value := by
  constructor
  · unfold Readout.render
    rw [displays.holds]
  · rfl

theorem readout_held_value {number kind : Readout} {value : Nat}
    (displays : number.Displays kind value) : number.value = value := by
  rw [displays.holds]

theorem readout_update_displays {number kind : Readout} {held : Nat}
    (displays : number.Displays kind held) (value : Nat) :
    (number.update value).2.Displays kind value := by
  unfold Readout.update
  by_cases same : number.value = value
  · rw [if_pos same]
    rw [readout_held_value displays] at same
    exact same ▸ displays
  · rw [if_neg same]
    have renewed : ({ number with value := value } : Readout) =
        { kind with value := value, surface := number.surface } := by
      rw [displays.holds]
    constructor
    · unfold Readout.render
      rw [renewed]
    · rfl

theorem readout_displayed_face {number kind : Readout} {value : Nat}
    (displays : number.Displays kind value) :
    number.surface.face = { text := Text.labelled kind.label kind.width value } := by
  rw [displays.drawn, displays.holds]
  rfl

def registerSlots : List String :=
  (List.finRange 16).map fun index => (Readout.register index).id

/-- Beside the readouts there is the array given last: a bank that mistook it for what the
readouts hold would skip an update. -/
structure RegisterBank.Displays (bank : RegisterBank) (values : Vector UInt8 16) : Prop where
  readouts : ∀ index : Fin 16,
    (bank.readouts.get index).Displays (.register index) (values.get index).toNat
  given : ∀ last, bank.given = some last → last = values
  drawn : bank.surface.face = slotsFace registerSlots

theorem bank_slots {bank : RegisterBank} {values : Vector UInt8 16}
    (displays : bank.Displays values) :
    bank.readouts.toList.map Readout.id = registerSlots := by
  apply List.ext_getElem
  · simp [registerSlots]
  · intro position inBank inSlots
    have bound : position < 16 := by simpa using inBank
    have slot := congrArg Readout.id (displays.readouts ⟨position, bound⟩).holds
    simp only [registerSlots, List.getElem_map, Vector.getElem_toList, List.getElem_finRange]
    exact slot

theorem bank_render_displays {bank : RegisterBank} {values : Vector UInt8 16}
    (displays : bank.Displays values) : bank.render.Displays values where
  readouts := displays.readouts
  given := displays.given
  drawn := congrArg slotsFace (bank_slots displays)

theorem bank_make_displays : RegisterBank.make.Displays (Vector.replicate 16 0) := by
  constructor
  · intro index
    have made : RegisterBank.make.readouts.get index = .register index := by
      change RegisterBank.make.readouts[index] = _
      simp [RegisterBank.make, RegisterBank.render]
    have zero : ((Vector.replicate 16 (0 : UInt8)).get index).toNat = 0 := by
      change (Vector.replicate 16 (0 : UInt8))[index].toNat = 0
      simp
    rw [made, zero]
    exact readout_make_displays _ _ _ _
  · intro last impossible
    cases impossible
  · show slotsFace _ = slotsFace registerSlots
    apply congrArg slotsFace
    rfl

theorem bank_put_displays {bank : RegisterBank} {held : Vector UInt8 16}
    (displays : bank.Displays held) (values : Vector UInt8 16) :
    (bank.put values).2.Displays values := by
  unfold RegisterBank.put
  by_cases same : bank.given = some values
  · rw [if_pos same]
    have unchanged : values = held := displays.given values same
    exact unchanged ▸ displays
  · rw [if_neg same]
    constructor
    · intro index
      have updated : Readout.Displays (bank.readouts[index].update values[index].toNat).2
          (.register index) values[index].toNat :=
        readout_update_displays (displays.readouts index) _
      change Readout.Displays (Vector.map Prod.snd _)[index] _ values[index].toNat
      simpa using updated
    · intro last known
      exact (Option.some.inj known).symm
    · exact displays.drawn

/-- A snapshot always has sixteen registers, so a bank never refuses one. -/
theorem bank_sync_eq_put (bank : RegisterBank) (snapshot : Snapshot) :
    bank.sync snapshot =
      (.ok (bank.put snapshot.registers).1, (bank.put snapshot.registers).2) := by
  have fits : snapshot.registers.toList.length = 16 := by simp
  have same : (⟨snapshot.registers.toList.toArray, by simp⟩ : Vector UInt8 16) =
      snapshot.registers := by
    apply Vector.toList_inj.mp
    simp
  unfold RegisterBank.sync RegisterBank.update
  rw [dif_pos fits, same]

theorem bank_displayed_faces {bank : RegisterBank} {values : Vector UInt8 16}
    (displays : bank.Displays values) :
    bank.readouts.toList.map (fun number => number.surface.face) =
      (List.finRange 16).map fun index =>
        { text := Text.labelled (Text.registerName index) 2 (values.get index).toNat } := by
  apply List.ext_getElem
  · simp
  · intro position inBank inRange
    have bound : position < 16 := by simpa using inBank
    have face := readout_displayed_face (displays.readouts ⟨position, bound⟩)
    simp only [List.getElem_map, Vector.getElem_toList, List.getElem_finRange]
    exact face

def lineSlot (position : Nat) : String :=
  (ListingLine.make position).id

structure ListingLine.SettledAt (line : ListingLine) (position : Nat) : Prop where
  slot : line.id = lineSlot position
  drawn : line.surface.face = line.content.face

theorem line_make_settled (position : Nat) : (ListingLine.make position).SettledAt position :=
  ⟨rfl, rfl⟩

theorem line_put_settled {line : ListingLine} {position : Nat}
    (settled : line.SettledAt position) (content : LineContent) :
    (line.put content).2.SettledAt position := by
  unfold ListingLine.put
  by_cases same : line.content = content
  · rw [if_pos same]
    exact settled
  · rw [if_neg same]
    exact ⟨settled.slot, rfl⟩

theorem line_put_content (line : ListingLine) (content : LineContent) :
    (line.put content).2.content = content := by
  unfold ListingLine.put
  by_cases same : line.content = content
  · rw [if_pos same]
    exact same
  · rw [if_neg same]
    rfl

/-- Each line shows what it holds, and the pane itself lists the ids of exactly these lines. -/
structure ListingPane.Settled (pane : ListingPane) : Prop where
  lines : ∀ position (inside : position < pane.lines.length),
    pane.lines[position].SettledAt position
  drawn : pane.surface.face = slotsFace ((List.range pane.lines.length).map lineSlot)

def ListingPane.contents (pane : ListingPane) : List LineContent :=
  pane.lines.map ListingLine.content

/-- Drawing a pane needs nothing of what its own surface showed before. -/
theorem pane_render_settled {pane : ListingPane}
    (lines : ∀ position (inside : position < pane.lines.length),
      pane.lines[position].SettledAt position) :
    pane.render.Settled := by
  constructor
  · exact lines
  · show slotsFace (pane.lines.map ListingLine.id) = _
    apply congrArg slotsFace
    apply List.ext_getElem
    · simp [ListingPane.render]
    · intro position inLines inRange
      have slot := (lines position (by simpa using inLines)).slot
      simpa using slot

theorem pane_make_settled : ListingPane.make.Settled := by
  apply pane_render_settled
  intro position inside
  exact absurd inside (Nat.not_lt_zero position)

theorem resized_length (lines : List ListingLine) (length : Nat) :
    (ListingPane.resized lines length).length = length := by
  simp only [ListingPane.resized, List.length_append, List.length_take, List.length_map,
    List.length_range']
  omega

/-- Growing and shrinking happen at the end, so every line keeps its position. -/
theorem resized_settled {lines : List ListingLine} {length : Nat}
    (settled : ∀ position (inside : position < lines.length),
      lines[position].SettledAt position)
    (position : Nat) (inside : position < (ListingPane.resized lines length).length) :
    (ListingPane.resized lines length)[position].SettledAt position := by
  have bound : position < length := by simpa [resized_length] using inside
  by_cases old : position < lines.length
  · have kept : (ListingPane.resized lines length)[position] = lines[position] := by
      have inFront : position < min length lines.length := by omega
      simp [ListingPane.resized, inFront]
    rw [kept]
    exact settled position old
  · have made : (ListingPane.resized lines length)[position] = .make position := by
      have beyond : ¬ position < min length lines.length := by omega
      have offset : lines.length + (position - min length lines.length) = position := by omega
      simp [ListingPane.resized, List.getElem_append, beyond, offset]
    rw [made]
    exact line_make_settled position

theorem pane_resize_settled {pane : ListingPane} (settled : pane.Settled) (length : Nat) :
    (pane.resize length).2.Settled := by
  unfold ListingPane.resize
  by_cases same : pane.lines.length = length
  · rw [if_pos same]
    exact settled
  · rw [if_neg same]
    exact pane_render_settled (resized_settled settled.lines)

theorem pane_resize_length (pane : ListingPane) (length : Nat) :
    (pane.resize length).2.lines.length = length := by
  unfold ListingPane.resize
  by_cases same : pane.lines.length = length
  · rw [if_pos same]
    exact same
  · rw [if_neg same]
    exact resized_length pane.lines length

/-- The lines of a fitted pane take their contents one by one, each in its own position. -/
theorem pane_update_lines (pane : ListingPane) (programCounter : UInt16)
    (listing : List ListedWord) :
    (pane.update programCounter listing).2.lines =
      List.zipWith (fun line listed => (line.put (.ofListed programCounter listed)).2)
        (pane.resize listing.length).2.lines listing := by
  simp only [ListingPane.update, List.map_zipWith]

theorem pane_update_length (pane : ListingPane) (programCounter : UInt16)
    (listing : List ListedWord) :
    (pane.update programCounter listing).2.lines.length = listing.length := by
  rw [pane_update_lines, List.length_zipWith, pane_resize_length, Nat.min_self]

theorem pane_update_surface (pane : ListingPane) (programCounter : UInt16)
    (listing : List ListedWord) :
    (pane.update programCounter listing).2.surface = (pane.resize listing.length).2.surface :=
  rfl

theorem pane_update_settled {pane : ListingPane} (settled : pane.Settled)
    (programCounter : UInt16) (listing : List ListedWord) :
    (pane.update programCounter listing).2.Settled := by
  have fitted := pane_resize_settled settled listing.length
  have count : (pane.update programCounter listing).2.lines.length =
      (pane.resize listing.length).2.lines.length := by
    rw [pane_update_length, pane_resize_length]
  constructor
  · intro position inside
    have before := fitted.lines position (count ▸ inside)
    simp only [pane_update_lines, List.getElem_zipWith]
    exact line_put_settled before _
  · rw [pane_update_surface, count]
    exact fitted.drawn

theorem pane_update_contents (pane : ListingPane) (programCounter : UInt16)
    (listing : List ListedWord) :
    (pane.update programCounter listing).2.contents =
      listing.map (LineContent.ofListed programCounter) := by
  have length := pane_resize_length pane listing.length
  unfold ListingPane.contents
  apply List.ext_getElem
  · simp [pane_update_lines, length]
  · intro position inLines inListing
    simp [pane_update_lines, line_put_content]

theorem settled_faces {pane : ListingPane} (settled : pane.Settled) :
    pane.lines.map (fun line => line.surface.face) = pane.contents.map LineContent.face := by
  unfold ListingPane.contents
  apply List.ext_getElem
  · simp
  · intro position inLines inContents
    simpa using (settled.lines position (by simpa using inLines)).drawn

end Chip8Inspector
