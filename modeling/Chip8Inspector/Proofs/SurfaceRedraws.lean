import Chip8Inspector.Proofs.ReadableFaces

/-!
# A surface is drawn again exactly when what it shows changes

An update compares what a widget holds, and what can be seen is its surfaces. The two agree since
a face tells what is held: an update that changes anything held is seen, and one that is not seen
drew nothing. This goes through both gates of a composite widget, that of the whole and those of
its parts.
-/

namespace Chip8Inspector

set_option autoImplicit false

/-- A surface under the id of the widget that draws on it. -/
structure Slot where
  id : String
  surface : Surface

namespace Slot

/-- The slot keeps its id, and its surface was drawn once more if it looks different, else not. -/
structure Follows (before after : Slot) : Prop where
  kept : after.id = before.id
  counted : after.surface.renders =
    before.surface.renders + if after.surface.face = before.surface.face then 0 else 1

/-- The answer tells whether the surface was drawn again. -/
structure Answered (before after : Slot) (drawn : Bool) : Prop where
  follows : before.Follows after
  told : drawn = true ↔ before.surface.renders < after.surface.renders

theorem unchanged_answered (slot : Slot) : slot.Answered slot false where
  follows := ⟨rfl, by rw [if_pos rfl, Nat.add_zero]⟩
  told := by simp

theorem drawn_answered (slot : Slot) {face : Face} (new : face ≠ slot.surface.face) :
    slot.Answered ⟨slot.id, slot.surface.draw face⟩ true where
  follows := ⟨rfl, congrArg (slot.surface.renders + ·) (if_neg new).symm⟩
  told := iff_of_true rfl (Nat.lt_succ_self _)

end Slot

/-- What an update does to the slots of a widget, its own before those of its parts: those that
stay follow, and the answer tells of a new number of slots and of every surface drawn again. -/
structure Redrawn (before after : List Slot) (drawn : Bool) : Prop where
  kept : ∀ pair ∈ before.zip after, pair.1.Follows pair.2
  told : drawn = true ↔ before.length ≠ after.length ∨
    ∃ pair ∈ before.zip after, pair.1.surface.renders < pair.2.surface.renders

namespace Redrawn

theorem nil : Redrawn [] [] false where
  kept := nofun
  told := by simp

theorem cons {before after : Slot} {earlier later : List Slot} {drawn others : Bool}
    (first : before.Answered after drawn) (rest : Redrawn earlier later others) :
    Redrawn (before :: earlier) (after :: later) (drawn || others) where
  kept := List.forall_mem_cons.mpr ⟨first.follows, rest.kept⟩
  told := by
    rw [Bool.or_eq_true, first.told, rest.told, List.zip_cons_cons, List.length_cons,
      List.length_cons]
    simp only [List.mem_cons, exists_eq_or_imp, ne_eq, Nat.add_right_cancel_iff]
    tauto

theorem alone {before after : Slot} {drawn : Bool} (answered : before.Answered after drawn) :
    Redrawn [before] [after] drawn := by
  rw [← Bool.or_false drawn]
  exact cons answered nil

theorem refl (slots : List Slot) : Redrawn slots slots false := by
  induction slots with
  | nil => exact nil
  | cons first later ih => exact cons first.unchanged_answered ih

theorem parts {W A : Type} {slot : W → Slot} {update : W → A → Bool × W} {widgets : List W}
    {values : List A} (fits : widgets.length = values.length)
    (answered : ∀ widget ∈ widgets, ∀ value,
      (slot widget).Answered (slot (update widget value).2) (update widget value).1) :
    let updates := List.zipWith update widgets values
    Redrawn (widgets.map slot) ((updates.map Prod.snd).map slot) (updates.any Prod.fst) := by
  induction widgets generalizing values with
  | nil => exact nil
  | cons widget later ih =>
      cases values with
      | nil => cases fits
      | cons value others =>
          obtain ⟨first, rest⟩ := List.forall_mem_cons.mp answered
          exact cons (first value) (ih (Nat.succ.inj fits) rest)

end Redrawn

inductive WidgetEvent (A : Type) where
  | update (argument : A)
  | render

/-- A widget that is not on a board: it is made, drawn and given its arguments directly. -/
structure Handling (W A : Type) where
  made : W
  update : W → A → Except WidgetError Bool × W
  render : W → W

namespace Handling

variable {W A : Type}

def undergo (handling : Handling W A) (widget : W) : WidgetEvent A → W
  | .update argument => (handling.update widget argument).2
  | .render => handling.render widget

def after (handling : Handling W A) (events : List (WidgetEvent A)) : W :=
  events.foldl handling.undergo handling.made

theorem after_keeps (handling : Handling W A) (Kept : W → Prop) (made : Kept handling.made)
    (updates : ∀ widget argument, Kept widget → Kept (handling.update widget argument).2)
    (renders : ∀ widget, Kept widget → Kept (handling.render widget))
    (events : List (WidgetEvent A)) : Kept (handling.after events) := by
  have step : ∀ widget event, Kept widget → Kept (handling.undergo widget event) := by
    intro widget event kept
    cases event with
    | update argument => exact updates widget argument kept
    | render => exact renders widget kept
  unfold after
  generalize handling.made = widget at made
  induction events generalizing widget with
  | nil => exact made
  | cons event later ih => exact ih _ (step widget event made)

end Handling

namespace Readout

def slot (number : Readout) : Slot :=
  ⟨number.id, number.surface⟩

def slots (number : Readout) : List Slot :=
  [number.slot]

def handling (id label : String) (width : Nat) (field : Option SnapshotField) :
    Handling Readout Nat where
  made := make id label width field
  update number value := (.ok (number.update value).1, (number.update value).2)
  render := render

end Readout

theorem readout_update_answered {number kind : Readout} {held : Nat}
    (displays : number.Displays kind held) (value : Nat) :
    number.slot.Answered (number.update value).2.slot (number.update value).1 := by
  unfold Readout.update
  by_cases same : number.value = value
  · rw [if_pos same]
    exact number.slot.unchanged_answered
  · rw [if_neg same]
    apply number.slot.drawn_answered
    rw [show number.slot.surface.face = number.face from displays.drawn]
    intro looksSame
    have texts := congrArg Face.text looksSame
    exact same (Text.labelled_injective _ _ texts).symm

namespace ListingLine

def slot (line : ListingLine) : Slot :=
  ⟨line.id, line.surface⟩

def slots (line : ListingLine) : List Slot :=
  [line.slot]

/-- What a line is brought up to date with. -/
structure Argument where
  current : Bool
  location : UInt16
  bytes : List UInt8
  text : String

def handling (position : Nat) : Handling ListingLine Argument where
  made := make position
  update line argument :=
    line.update argument.current argument.location argument.bytes argument.text
  render := render

end ListingLine

theorem line_put_answered {line : ListingLine} (drawn : line.surface.face = line.content.face)
    (content : LineContent) :
    line.slot.Answered (line.put content).2.slot (line.put content).1 := by
  unfold ListingLine.put
  by_cases same : line.content = content
  · rw [if_pos same]
    exact line.slot.unchanged_answered
  · rw [if_neg same]
    apply line.slot.drawn_answered
    rw [show line.slot.surface.face = line.content.face from drawn]
    intro looksSame
    exact same (LineContent.face_injective looksSame).symm

namespace RegisterBank

def slots (bank : RegisterBank) : List Slot :=
  ⟨id, bank.surface⟩ :: bank.readouts.toList.map Readout.slot

def handling : Handling RegisterBank (List UInt8) where
  made := make
  update := update
  render := render

end RegisterBank

namespace ListingPane

def slots (pane : ListingPane) : List Slot :=
  ⟨id, pane.surface⟩ :: pane.lines.map ListingLine.slot

structure Argument where
  programCounter : UInt16
  listing : List ListedWord

def handling : Handling ListingPane Argument where
  made := make
  update pane argument :=
    (.ok (pane.update argument.programCounter argument.listing).1,
      (pane.update argument.programCounter argument.listing).2)
  render := render

end ListingPane

theorem readout_reached (id label : String) (width : Nat) (field : Option SnapshotField)
    (events : List (WidgetEvent Nat)) :
    ∃ held, ((Readout.handling id label width field).after events).Displays
      (.make id label width field) held := by
  apply (Readout.handling id label width field).after_keeps fun number =>
    ∃ held, number.Displays (.make id label width field) held
  · exact ⟨0, readout_make_displays id label width field⟩
  · rintro number value ⟨held, displays⟩
    exact ⟨value, readout_update_displays displays value⟩
  · rintro number ⟨held, displays⟩
    exact ⟨held, readout_render_displays displays⟩

theorem line_update_two (line : ListingLine) (current : Bool) (location : UInt16)
    {bytes : List UInt8} (two : bytes.length = 2) (text : String) :
    ∃ content, line.update current location bytes text =
      (.ok (line.put content).1, (line.put content).2) := by
  obtain ⟨high, low, rfl⟩ := List.length_eq_two.mp two
  exact ⟨⟨current, location, high, low, text⟩, rfl⟩

theorem line_update_refused (line : ListingLine) (current : Bool) (location : UInt16)
    {bytes : List UInt8} (other : bytes.length ≠ 2) (text : String) :
    line.update current location bytes text =
      (.error (.invalidLength line.id 2 bytes.length), line) := by
  unfold ListingLine.update
  split
  · exact absurd rfl other
  · rfl

theorem line_reached (position : Nat) (events : List (WidgetEvent ListingLine.Argument)) :
    ((ListingLine.handling position).after events).SettledAt position := by
  apply (ListingLine.handling position).after_keeps fun line => line.SettledAt position
  · exact line_make_settled position
  · rintro line ⟨current, location, bytes, text⟩ settled
    show (line.update current location bytes text).2.SettledAt position
    by_cases two : bytes.length = 2
    · obtain ⟨content, updated⟩ := line_update_two line current location two text
      rw [updated]
      exact line_put_settled settled content
    · rw [line_update_refused line current location two text]
      exact settled
  · exact fun line settled => ⟨settled.slot, rfl⟩

theorem bank_update_sixteen (bank : RegisterBank) {values : List UInt8}
    (sixteen : values.length = 16) :
    ∃ given : Vector UInt8 16, bank.update values =
      (.ok (bank.put given).1, (bank.put given).2) := by
  unfold RegisterBank.update
  rw [dif_pos sixteen]
  exact ⟨_, rfl⟩

theorem bank_update_refused (bank : RegisterBank) {values : List UInt8}
    (other : values.length ≠ 16) :
    bank.update values = (.error (.invalidLength RegisterBank.id 16 values.length), bank) := by
  unfold RegisterBank.update
  rw [dif_neg other]

theorem bank_reached (events : List (WidgetEvent (List UInt8))) :
    ∃ held, (RegisterBank.handling.after events).Displays held := by
  apply RegisterBank.handling.after_keeps fun bank => ∃ held, bank.Displays held
  · exact ⟨_, bank_make_displays⟩
  · rintro bank values ⟨held, displays⟩
    show ∃ held, (bank.update values).2.Displays held
    by_cases sixteen : values.length = 16
    · obtain ⟨given, updated⟩ := bank_update_sixteen bank sixteen
      rw [updated]
      exact ⟨given, bank_put_displays displays given⟩
    · rw [bank_update_refused bank sixteen]
      exact ⟨held, displays⟩
  · rintro bank ⟨held, displays⟩
    exact ⟨held, bank_render_displays displays⟩

theorem bank_put_redrawn {bank : RegisterBank} {held : Vector UInt8 16}
    (displays : bank.Displays held) (values : Vector UInt8 16) :
    Redrawn bank.slots (bank.put values).2.slots (bank.put values).1 := by
  unfold RegisterBank.put
  by_cases same : bank.given = some values
  · rw [if_pos same]
    exact Redrawn.refl bank.slots
  · rw [if_neg same]
    have answered : ∀ number ∈ bank.readouts.toList, ∀ value : UInt8,
        number.slot.Answered (number.update value.toNat).2.slot
          (number.update value.toNat).1 := by
      intro number member value
      obtain ⟨position, inside, rfl⟩ := List.getElem_of_mem member
      have bound : position < 16 := by simpa using inside
      exact readout_update_answered (displays.readouts ⟨position, bound⟩) value.toNat
    have fits : bank.readouts.toList.length = values.toList.length := by simp
    have parts := Redrawn.parts fits answered
    have whole := Redrawn.cons (Slot.unchanged_answered ⟨RegisterBank.id, bank.surface⟩) parts
    rw [Bool.false_or] at whole
    unfold RegisterBank.slots
    simp only [Vector.toList_map, Vector.toList_zipWith, ← Vector.any_toList]
    exact whole

theorem pane_reached (events : List (WidgetEvent ListingPane.Argument)) :
    (ListingPane.handling.after events).Settled := by
  apply ListingPane.handling.after_keeps ListingPane.Settled
  · exact pane_make_settled
  · exact fun pane argument settled => pane_update_settled settled _ _
  · exact fun pane settled => pane_render_settled settled.lines

/-- A line that stays is kept, and a new one is a blank line. -/
theorem pane_resize_line (pane : ListingPane) {length position : Nat} (inside : position < length) :
    (pane.resize length).2.lines[position]? =
      some (pane.lines[position]?.getD (.make position)) := by
  unfold ListingPane.resize
  by_cases same : pane.lines.length = length
  · have old : position < pane.lines.length := same ▸ inside
    rw [if_pos same, List.getElem?_eq_getElem old, Option.getD_some]
  · rw [if_neg same]
    show (ListingPane.resized pane.lines length)[position]? = _
    unfold ListingPane.resized
    by_cases old : position < pane.lines.length
    · rw [List.getElem?_append_left (by rw [List.length_take]; omega),
        List.getElem?_take_of_lt inside, List.getElem?_eq_getElem old, Option.getD_some]
    · have front : (pane.lines.take length).length = pane.lines.length := by
        rw [List.length_take]
        omega
      rw [List.getElem?_append_right (by omega), front, List.getElem?_map,
        List.getElem?_range' (by omega), List.getElem?_eq_none (Nat.not_lt.mp old)]
      simp only [Option.map_some, Option.getD_none, Nat.one_mul]
      congr 2
      omega

theorem pane_update_line (pane : ListingPane) (programCounter : UInt16)
    (listing : List ListedWord) {position : Nat} (inside : position < listing.length) :
    (pane.update programCounter listing).2.lines[position]? =
      some ((pane.lines[position]?.getD (.make position)).put
        (.ofListed programCounter listing[position])).2 := by
  rw [pane_update_lines, List.getElem?_zipWith, pane_resize_line pane inside,
    List.getElem?_eq_getElem inside]

/-- Making a line draws it once, and filling it draws it again unless it stays blank. -/
theorem made_line_renders (position : Nat) (content : LineContent) :
    ((ListingLine.make position).put content).2.surface.renders =
      if content = .blank then 1 else 2 := by
  have made : (ListingLine.make position).content = .blank := rfl
  unfold ListingLine.put
  by_cases blank : content = .blank
  · rw [if_pos blank, made, if_pos blank.symm]
    rfl
  · rw [if_neg blank, made, if_neg (Ne.symm blank)]
    rfl

theorem pane_update_kept {pane : ListingPane} (settled : pane.Settled) (programCounter : UInt16)
    (listing : List ListedWord) :
    ∀ pair ∈ (pane.lines.map ListingLine.slot).zip
        ((pane.update programCounter listing).2.lines.map ListingLine.slot),
      pair.1.Follows pair.2 := by
  intro pair member
  obtain ⟨position, found⟩ := List.mem_iff_getElem?.mp member
  obtain ⟨before, after⟩ := List.getElem?_zip_eq_some.mp found
  rw [List.getElem?_map, Option.map_eq_some_iff] at before after
  obtain ⟨line, old, sameBefore⟩ := before
  obtain ⟨updated, new, sameAfter⟩ := after
  have inside : position < listing.length :=
    pane_update_length pane programCounter listing ▸ (List.getElem?_eq_some_iff.mp new).1
  obtain ⟨bound, rfl⟩ := List.getElem?_eq_some_iff.mp old
  rw [pane_update_line pane programCounter listing inside, old] at new
  rw [← sameBefore, ← sameAfter, ← Option.some.inj new]
  exact (line_put_answered (settled.lines position bound).drawn _).follows

/-- The slots of a pane look different for every number of lines. -/
theorem pane_resize_answered {pane : ListingPane} (settled : pane.Settled) {length : Nat}
    (other : pane.lines.length ≠ length) :
    Slot.Answered ⟨ListingPane.id, pane.surface⟩
      ⟨ListingPane.id, (pane.resize length).2.surface⟩ true := by
  have new : (pane.resize length).2.surface.face ≠ pane.surface.face := by
    rw [(pane_resize_settled settled length).drawn, settled.drawn, pane_resize_length]
    exact fun looksSame => other (lineSlots_injective looksSame).symm
  have drawn : (pane.resize length).2.surface =
      pane.surface.draw (pane.resize length).2.surface.face := by
    unfold ListingPane.resize
    rw [if_neg other]
    rfl
  rw [drawn]
  exact Slot.drawn_answered ⟨ListingPane.id, pane.surface⟩ new

theorem pane_update_redrawn {pane : ListingPane} (settled : pane.Settled)
    (programCounter : UInt16) (listing : List ListedWord) :
    Redrawn pane.slots (pane.update programCounter listing).2.slots
      (pane.update programCounter listing).1 := by
  -- With as many lines as before only the lines can be drawn. With another number the pane is drawn
  -- itself, and answers for that alone.
  by_cases same : pane.lines.length = listing.length
  · have answered : ∀ line ∈ pane.lines, ∀ listed : ListedWord,
        line.slot.Answered (line.put (.ofListed programCounter listed)).2.slot
          (line.put (.ofListed programCounter listed)).1 := by
      intro line member listed
      obtain ⟨position, inside, rfl⟩ := List.getElem_of_mem member
      exact line_put_answered (settled.lines position inside).drawn _
    have parts := Redrawn.parts same answered
    unfold ListingPane.update ListingPane.resize
    rw [if_pos same]
    exact Redrawn.cons (Slot.unchanged_answered ⟨ListingPane.id, pane.surface⟩) parts
  · have own := pane_resize_answered settled same
    constructor
    · exact List.forall_mem_cons.mpr
        ⟨own.follows, pane_update_kept settled programCounter listing⟩
    · have rebuilt : (pane.update programCounter listing).1 = true := by
        unfold ListingPane.update ListingPane.resize
        rw [if_neg same]
        rfl
      have resized : pane.slots.length ≠ (pane.update programCounter listing).2.slots.length := by
        simpa [ListingPane.slots, pane_update_length] using same
      exact iff_of_true rebuilt (.inl resized)

theorem pane_new_line {pane : ListingPane} (programCounter : UInt16) {listing : List ListedWord}
    {position : Nat} (inside : position < listing.length) (new : pane.lines.length ≤ position) :
    ∃ line, (pane.update programCounter listing).2.lines[position]? = some line ∧
      line.surface.renders =
        if LineContent.ofListed programCounter listing[position] = .blank then 1 else 2 := by
  have found := pane_update_line pane programCounter listing inside
  rw [List.getElem?_eq_none new, Option.getD_none] at found
  exact ⟨_, found, made_line_renders position _⟩

/-- For every widget in every state that updates and drawings lead to, and for every argument of
an update: a wrong number of bytes is refused and changes nothing, and otherwise each slot that
stays is drawn once more if it looks different and not at all if it does not, and the answer tells
whether slots came or went or any was drawn. A listing gets as many lines as it is given words; a
line that is new was drawn once if its word leaves it blank, else twice. -/
theorem surfaces_drawn_when_new :
    (∀ id label width field events value,
      let number := (Readout.handling id label width field).after events
      let (drawn, updated) := number.update value
      Redrawn number.slots updated.slots drawn) ∧
    (∀ position events current location bytes text,
      let line := (ListingLine.handling position).after events
      let (answer, updated) := line.update current location bytes text
      if bytes.length = 2 then ∃ drawn, answer = .ok drawn ∧ Redrawn line.slots updated.slots drawn
      else answer = .error (.invalidLength line.id 2 bytes.length) ∧ updated = line) ∧
    (∀ events values,
      let bank := RegisterBank.handling.after events
      let (answer, updated) := bank.update values
      if values.length = 16 then
        ∃ drawn, answer = .ok drawn ∧ Redrawn bank.slots updated.slots drawn
      else answer = .error (.invalidLength RegisterBank.id 16 values.length) ∧ updated = bank) ∧
    ∀ events programCounter listing,
      let pane := ListingPane.handling.after events
      let (drawn, updated) := pane.update programCounter listing
      Redrawn pane.slots updated.slots drawn ∧ updated.lines.length = listing.length ∧
        ∀ position (inside : position < listing.length), pane.lines.length ≤ position →
          ∃ line, updated.lines[position]? = some line ∧ line.surface.renders =
            if LineContent.ofListed programCounter listing[position] = .blank then 1 else 2 := by
  refine ⟨?readout, ?line, ?bank, ?pane⟩
  case readout =>
    intro id label width field events value number
    obtain ⟨held, displays⟩ := readout_reached id label width field events
    exact Redrawn.alone (readout_update_answered displays value)
  case line =>
    intro position events current location bytes text line
    have settled := line_reached position events
    by_cases two : bytes.length = 2
    · obtain ⟨content, updated⟩ := line_update_two line current location two text
      rw [updated]
      dsimp only
      rw [if_pos two]
      exact ⟨_, rfl, Redrawn.alone (line_put_answered settled.drawn content)⟩
    · rw [line_update_refused line current location two text]
      dsimp only
      rw [if_neg two]
      exact ⟨rfl, rfl⟩
  case bank =>
    intro events values bank
    obtain ⟨held, displays⟩ := bank_reached events
    by_cases sixteen : values.length = 16
    · obtain ⟨given, updated⟩ := bank_update_sixteen bank sixteen
      rw [updated]
      dsimp only
      rw [if_pos sixteen]
      exact ⟨_, rfl, bank_put_redrawn displays given⟩
    · rw [bank_update_refused bank sixteen]
      dsimp only
      rw [if_neg sixteen]
      exact ⟨rfl, rfl⟩
  case pane =>
    intro events programCounter listing pane
    exact ⟨pane_update_redrawn (pane_reached events) programCounter listing,
      pane_update_length pane programCounter listing,
      fun position inside new => pane_new_line programCounter inside new⟩

end Chip8Inspector
