import Chip8Inspector.Proofs.PanelCells
import Chip8Inspector.Proofs.PlainTypesetter
import Chip8Inspector.Scene
import Mathlib.Data.List.DropRight

/-!
# The newest messages are kept and shown

A journal forgets its oldest line whenever a new one has no room, and the panel of messages leaves
out the oldest ones for which it has no row. Each of these windows is the end of the one before, so
what is shown is always the end of what passed the filter.
-/

namespace Chip8Inspector

set_option autoImplicit false

namespace Log

theorem rtake_rtake {α : Type} (list : List α) (outer inner : Nat) :
    (list.rtake outer).rtake inner = list.rtake (min inner outer) := by
  simp only [List.rtake, List.length_drop, List.drop_drop]
  congr 1
  omega

theorem length_rtake {α : Type} (list : List α) (count : Nat) :
    (list.rtake count).length = min count list.length := by
  rw [List.rtake, List.length_drop]
  omega

namespace Journal

/-- The lines of the records that pass a threshold. -/
def passing (threshold : Threshold) (records : List Record) : List String :=
  (records.filter fun record => threshold.admits record.level).map Record.line

theorem write_threshold (journal : Journal) (record : Record) :
    (journal.write record).threshold = journal.threshold := by
  unfold write
  split <;> rfl

theorem passing_append (threshold : Threshold) (earlier later : List Record) :
    passing threshold (earlier ++ later) =
      passing threshold earlier ++ passing threshold later := by
  simp [passing]

/-- A journal that holds the newest of some lines holds the newest of them and one more, once that
one is written. -/
theorem write_newest {journal : Journal} {lines : List String}
    (newest : journal.lines = lines.rtake capacity) (record : Record) :
    (journal.write record).lines =
      (lines ++ passing journal.threshold [record]).rtake capacity := by
  unfold write enabled passing
  by_cases passes : journal.threshold.admits record.level = true
  · simp only [passes, if_true, newest, length_rtake, List.filter_cons_of_pos, List.filter_nil,
      List.map_cons, List.map_nil]
    have split : (lines ++ [record.line]).rtake capacity = lines.rtake 63 ++ [record.line] :=
      List.rtake_concat_succ ..
    rw [split]
    congr 1
    by_cases full : min capacity lines.length = capacity
    · -- A full journal forgets its first line.
      rw [if_pos full, List.rtake, List.rtake, List.tail_drop]
      congr 1
      unfold capacity at full ⊢
      omega
    · rw [if_neg full, List.rtake, List.rtake]
      unfold capacity at full ⊢
      congr 1
      omega
  · simp [passes, newest]

/-- By induction on the records, with the lines before them general. -/
theorem writeAll_newest {journal : Journal} {lines : List String}
    (newest : journal.lines = lines.rtake capacity) (records : List Record) :
    (journal.writeAll records).lines =
      (lines ++ passing journal.threshold records).rtake capacity := by
  induction records generalizing journal lines with
  | nil => simpa [writeAll, passing] using newest
  | cons record later ih =>
      have step := ih (journal.write_newest newest record)
      rw [write_threshold, List.append_assoc, ← passing_append] at step
      exact step

theorem recent_newest (threshold : Threshold) (records : List Record) (count : Nat) :
    ((Journal.mk threshold []).writeAll records).recent count =
      (passing threshold records).rtake (min count capacity) := by
  have newest : (Journal.mk threshold []).lines = ([] : List String).rtake capacity := rfl
  rw [recent, ← List.rtake, writeAll_newest newest, rtake_rtake]
  rfl

end Journal

end Log

namespace Scene

open Terminal

theorem messageLines_eq (messages : List String) (area : Area) :
    messageLines messages area =
      (messages.rtake (min messages.length (area.height - 2))).map fun text => Line.of text {} := by
  have same : messages.length - area.inside.height =
      messages.length - min messages.length (area.height - 2) := by
    simp only [Area.inside]
    omega
  rw [messageLines, same, List.rtake]

/-- Inside its border the panel shows the newest messages from the top, and leaves the rows below
them as they were. -/
theorem drawMessages_cell (setter : Typesetter) (canvas : Canvas) (area : Area)
    (messages : List String) {column row : Nat} (wide : column < area.width - 2)
    (high : row < area.height - 2) :
    (drawMessages setter canvas area messages).cell (area.column + 1 + column)
        (area.row + 1 + row) =
      match (messages.rtake (min messages.length (area.height - 2)))[row]? with
      | none => canvas.cell (area.column + 1 + column) (area.row + 1 + row)
      | some text =>
          (setter.paragraph (area.width - 2) (.of text {})).put column
            (canvas.cell (area.column + 1 + column) (area.row + 1 + row)) := by
  have inside :
      area.inside.contains (area.column + 1 + column) (area.row + 1 + row) = true := by
    rw [contains_iff]
    simp only [Area.inside]
    omega
  have unpainted (cell : Cell) : cell.painted {} = cell := rfl
  rw [drawMessages, drawPanel, Canvas.paragraph_cell _ _ _ inside, Canvas.box_inside _ _ _ inside,
    unpainted, messageLines_eq, List.getElem?_map]
  simp only [Area.inside, Nat.add_sub_cancel_left]
  cases (messages.rtake (min messages.length (area.height - 2)))[row]? <;> rfl

theorem newest_shown {messages : List String} {newest : String}
    (last : messages.getLast? = some newest) {height : Nat} (room : 2 < height) :
    let shown := messages.rtake (min messages.length (height - 2))
    shown[shown.length - 1]? = some newest ∧ shown.length - 1 < height - 2 := by
  intro shown
  have filled : messages ≠ [] := by
    rintro rfl
    cases last
  have some_message := List.length_pos_iff.mpr filled
  have size : shown.length = min messages.length (height - 2) := by
    rw [Log.length_rtake]
    omega
  refine ⟨?_, by omega⟩
  rw [List.getLast?_eq_getElem?] at last
  have ending : shown = messages.drop (messages.length - min messages.length (height - 2)) := rfl
  rw [size, ending, List.getElem?_drop, ← last]
  congr 1
  omega

/-- A journal always gives the newest of the lines that passed its filter, as many as are asked for
but no more than it has room for, oldest first. And the panel of messages sets the newest of those
it is given, as many as it has rows, one on each row from the top, and changes no other row; a
printed text stands there letter by letter. So the newest message is on the last row that is used,
whenever there is a message and a row. -/
theorem newest_messages_shown {setter : Typesetter} (lawful : setter.Lawful) :
    (∀ threshold records count,
      ((Log.Journal.mk threshold []).writeAll records).recent count =
        (Log.Journal.passing threshold records).rtake (min count 64)) ∧
      ∀ (canvas : Canvas) (area : Area) (messages : List String),
        let shown := messages.rtake (min messages.length (area.height - 2))
        shown.length = min messages.length (area.height - 2) ∧
          (∀ column < area.width - 2, ∀ row < area.height - 2,
            let under := canvas.cell (area.column + 1 + column) (area.row + 1 + row)
            let cell := (drawMessages setter canvas area messages).cell (area.column + 1 + column)
              (area.row + 1 + row)
            (∀ text, shown[row]? = some text →
              cell = (setter.paragraph (area.width - 2) (.of text {})).put column under ∧
                ((∀ c ∈ text.toList, Text.Printed c) →
                  cell = under.lettered {} text.toList[column]?)) ∧
              (shown[row]? = none → cell = under)) ∧
          ∀ newest, messages.getLast? = some newest → 2 < area.height →
            shown[shown.length - 1]? = some newest ∧ shown.length - 1 < area.height - 2 := by
  refine ⟨fun threshold records count => Log.Journal.recent_newest threshold records count,
    fun canvas area messages => ?_⟩
  intro shown
  refine ⟨?_, fun column wide row high => ?_, fun newest last room => newest_shown last room⟩
  · rw [Log.length_rtake]
    omega
  · intro under cell
    have drawn := drawMessages_cell setter canvas area messages wide high
    refine ⟨fun text listed => ?_, fun unused => ?_⟩
    · rw [listed] at drawn
      exact ⟨drawn, fun printed =>
        drawn.trans (lawful.paragraph_letters text {} _ column under printed wide)⟩
    · rw [unused] at drawn
      exact drawn

/-- Of three messages two have room, and the newest is on the second row. -/
theorem newest_on_second_row :
    Typesetter.plain.Lawful ∧
      ((Log.Journal.mk (.upTo .info) []).writeAll
        [⟨.info, "paused"⟩, ⟨.debug, "fetching"⟩, ⟨.info, "resumed"⟩]).recent 1 =
          ["INFO  resumed"] ∧
      let drawn := drawMessages .plain .blank ⟨0, 0, 12, 4⟩ ["paused", "resumed", "stepping"]
      (drawn.cell 1 1).symbol = "r" ∧ (drawn.cell 1 2).symbol = "s" := by
  obtain ⟨kept, shown⟩ := newest_messages_shown Typesetter.plain_lawful
  obtain ⟨-, cells, -⟩ := shown .blank ⟨0, 0, 12, 4⟩ ["paused", "resumed", "stepping"]
  have upper := ((cells 0 (by decide) 0 (by decide)).1 _ rfl).2
    (Text.printed_of_all (by decide))
  have lower := ((cells 0 (by decide) 1 (by decide)).1 _ rfl).2
    (Text.printed_of_all (by decide))
  exact ⟨Typesetter.plain_lawful, kept _ _ 1, congrArg Cell.symbol upper,
    congrArg Cell.symbol lower⟩

end Scene

end Chip8Inspector
