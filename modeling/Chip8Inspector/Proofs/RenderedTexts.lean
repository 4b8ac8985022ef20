import Chip8Inspector.Proofs.SurfaceRedraws

/-!
# What was written can be read back

A number in hexadecimal digits, a labelled value and a line of the listing give back what they
were written from, whatever the label or the text of the line holds. So a readout, or a line,
shows the same in two of its states only if it holds the same. All this is for widths that can be
asked for: beyond them nothing is written.
-/

namespace Chip8Inspector

set_option autoImplicit false

namespace Text

/-- The digits below sixteen in lower case. -/
def hexLetters : List Char :=
  "0123456789abcdef".toList

theorem hexDigits_lowercase {width value : Nat} {digit : Char}
    (member : digit ∈ hexDigits width value) : digit ∈ hexLetters := by
  have all : ∀ digit < 16, Nat.digitChar digit ∈ hexLetters := by decide
  obtain ⟨digit, bound, rfl⟩ := mem_hexDigits member
  exact all digit bound

theorem hex_within {width : Nat} (fits : width ≤ widest) (marked : Bool) (value : Nat) :
    hex? marked width value =
      some ((if marked then "0x" else "") ++ String.ofList (hexDigits width value)) := by
  unfold hex?
  rw [if_neg (Nat.not_lt.mpr fits)]
  cases marked with
  | false => exact congrArg some String.empty_append.symm
  | true => rfl

theorem labelled_within {width : Nat} (fits : width ≤ widest) (label : String) (value : Nat) :
    labelled? label width value = some (labelled label width value) :=
  if_neg (Nat.not_lt.mpr fits)

end Text

theorem displayed_readouts_alike {one other kind : Readout} {held kept : Nat}
    (displays : one.Displays kind held) (others : other.Displays kind kept) :
    one.surface.face = other.surface.face ↔ one.value = other.value := by
  rw [readout_displayed_face displays, readout_displayed_face others,
    readout_held_value displays, readout_held_value others]
  constructor
  · intro same
    exact Text.labelled_injective _ _ (congrArg Face.text same)
  · rintro rfl
    rfl

theorem settled_lines_alike {one other : ListingLine} {position : Nat}
    (settled : one.SettledAt position) (others : other.SettledAt position) :
    one.surface.face = other.surface.face ↔ one.content = other.content := by
  rw [settled.drawn, others.drawn]
  exact LineContent.face_injective.eq_iff

/-- For every number and every width that can be asked for: its hexadecimal text, with or without
the marker, consists of lowercase digits, as many as the width and the number ask for, and they
have the value of the number; a labelled value gives the number back from both of its parts under
every label. The text of a line gives back location, word and text, and a line or a readout shows
the same after two histories exactly if it holds the same. -/
theorem rendered_texts_read_back (marked : Bool) (label : String) {width : Nat}
    (fits : width ≤ Text.widest) (value : Nat) :
    (∃ digits, Text.hex? marked width value =
        some ((if marked then "0x" else "") ++ String.ofList digits) ∧
      (∀ digit ∈ digits, digit ∈ Text.hexLetters) ∧
      digits.length = max width (max (Nat.digits 16 value).length 1) ∧
      Text.numberOf 16 digits = value) ∧
    (∃ text, Text.labelled? label width value = some text ∧
      Text.readLabelled? text = some (value, value)) ∧
    (∀ content : LineContent,
      LineContent.read content.face.text = (content.location, content.word, content.text)) ∧
    (∀ position earlier later,
      let one := (ListingLine.handling position).after earlier
      let other := (ListingLine.handling position).after later
      one.surface.face = other.surface.face ↔ one.content = other.content) ∧
    ∀ id label width field earlier later,
      let one := (Readout.handling id label width field).after earlier
      let other := (Readout.handling id label width field).after later
      one.surface.face = other.surface.face ↔ one.value = other.value := by
  refine ⟨?hex, ?labelled, LineContent.read_face, ?line, ?readout⟩
  case hex =>
    exact ⟨Text.hexDigits width value, Text.hex_within fits marked value,
      fun digit member => Text.hexDigits_lowercase member, Text.length_hexDigits width value,
      Text.numberOf_hexDigits width value⟩
  case labelled =>
    exact ⟨_, Text.labelled_within fits label value, Text.readLabelled_labelled label width value⟩
  case line =>
    intro position earlier later one other
    exact settled_lines_alike (line_reached position earlier) (line_reached position later)
  case readout =>
    intro id label width field earlier later one other
    obtain ⟨held, displays⟩ := readout_reached id label width field earlier
    obtain ⟨kept, others⟩ := readout_reached id label width field later
    exact displayed_readouts_alike displays others

/-- The label looks like a labelled value itself, of another number. -/
theorem value_read_behind_label :
    6 ≤ Text.widest ∧
      Text.labelled? "A: 0x1 / 1" 6 512 = some "A: 0x1 / 1: 0x000200 / 512" ∧
      Text.readLabelled? "A: 0x1 / 1: 0x000200 / 512" = some (512, 512) := by
  have fits : 6 ≤ Text.widest := by decide
  have written : Text.labelled? "A: 0x1 / 1" 6 512 = some "A: 0x1 / 1: 0x000200 / 512" := by
    decide
  obtain ⟨-, ⟨text, labelled, read⟩, -⟩ := rendered_texts_read_back true "A: 0x1 / 1" fits 512
  rw [written] at labelled
  cases labelled
  exact ⟨fits, written, read⟩

/-- A field that is one digit wider than the widest is not filled up with zeros: nothing is written
at all. -/
theorem wider_field_unwritten :
    Text.hex? true 65536 48879 = none ∧ Text.labelled? "DELAY" 65536 48879 = none := by
  decide

end Chip8Inspector
