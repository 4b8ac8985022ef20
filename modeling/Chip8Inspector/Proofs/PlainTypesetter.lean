import Chip8Inspector.Terminal.Glyph
import Mathlib.Data.List.TakeWhile

/-!
# Glyphs set one behind the other

A printed letter is a glyph of its own and takes one column. So the plain typesetter sets a printed
text letter by letter, and of any text it leaves a cell as it was, puts a glyph on it in the paint
of its span, or has it covered by a glyph further left.
-/

namespace Chip8Inspector

set_option autoImplicit false

namespace Text

theorem Printed.low {c : Char} (printed : Printed c) : c.toNat < 0x7f :=
  Nat.lt_succ_of_le printed.2

/-- The test of a given text. -/
theorem printed_of_all {text : List Char} (all : (text.all fun c => decide (Printed c)) = true) :
    ∀ c ∈ text, Printed c := by
  intro c member
  exact of_decide_eq_true (List.all_eq_true.mp all c member)

/-- No character below the first of a set is in it. -/
theorem CharSet.contains_below {set : CharSet} (first : Nat) {later : List Nat}
    (starts : set.bounds.toList = first :: later) {c : Char} (below : c.toNat < first) :
    set.contains c = false := by
  have none : (set.bounds.takeWhile (· ≤ c.toNat)).toList = [] := by
    rw [Array.toList_takeWhile, starts, List.takeWhile_cons_of_neg]
    simpa using below
  have empty : (set.bounds.takeWhile (· ≤ c.toNat)).size = 0 := by
    rw [← Array.length_toList, none, List.length_nil]
  rw [contains, empty]
  rfl

theorem Printed.not_extending {c : Char} (printed : Printed c) : extending.contains c = false :=
  CharSet.contains_below 0x300 rfl (Nat.lt_trans printed.low (by decide))

theorem Printed.not_spacing {c : Char} (printed : Printed c) : spacingMarks.contains c = false :=
  CharSet.contains_below 0x903 rfl (Nat.lt_trans printed.low (by decide))

theorem Printed.not_leading {c : Char} (printed : Printed c) : leadingMarks.contains c = false :=
  CharSet.contains_below 0x600 rfl (Nat.lt_trans printed.low (by decide))

theorem Printed.not_wide {c : Char} (printed : Printed c) : wide.contains c = false :=
  CharSet.contains_below 0x1100 rfl (Nat.lt_trans printed.low (by decide))

/-- The printed characters lie between the first two runs of control characters. -/
theorem Printed.not_columnless {c : Char} (printed : Printed c) :
    columnless.contains c = false := by
  have low := printed.low
  have high := printed.1
  have start : columnless.bounds.toList = 0 :: 0x20 :: 0x7f :: columnless.bounds.toList.drop 3 :=
    rfl
  have taken : (columnless.bounds.takeWhile (· ≤ c.toNat)).toList = [0, 0x20] := by
    rw [Array.toList_takeWhile, start]
    simp [high, Nat.not_le.mpr low]
  have even : (columnless.bounds.takeWhile (· ≤ c.toNat)).size = 2 := by
    rw [← Array.length_toList, taken]
    rfl
  rw [CharSet.contains, even]
  rfl

theorem clustersBehind_printed {first : Char} (printed : Printed first) {text : List Char}
    (all : ∀ c ∈ text, Printed c) :
    clustersBehind [first] text = [first] :: text.map ([·]) := by
  induction text generalizing first with
  | nil => rfl
  | cons c later ih =>
      rw [List.forall_mem_cons] at all
      have apart : belongsTo [first] c = false := by
        have noFlag : isRegionLetter c = false := by
          have low := all.1.low
          simp [isRegionLetter]
          omega
        simp [belongsTo, all.1.not_extending, all.1.not_spacing, printed.not_leading, noFlag]
      rw [clustersBehind, apart, ih all.1 all.2]
      rfl

/-- Every printed character is a cluster of its own. -/
theorem clusters_printed {text : List Char} (all : ∀ c ∈ text, Printed c) :
    clusters text = text.map ([·]) := by
  cases text with
  | nil => rfl
  | cons c later =>
      rw [List.forall_mem_cons] at all
      exact clustersBehind_printed all.1 all.2

theorem columns_printed {c : Char} (printed : Printed c) : columns [c] = 1 := by
  simp [columns, columnsOf, printed.not_columnless, printed.not_extending, printed.not_leading,
    printed.not_wide]

end Text

namespace Terminal

/-- A letter in one column. -/
def letterGlyph (letter : Char) : Glyph :=
  ⟨String.singleton letter, 1⟩

theorem glyphs_printed {text : String} (all : ∀ c ∈ text.toList, Text.Printed c) (paint : Paint) :
    (Line.of text paint).glyphs = text.toList.map fun c => (letterGlyph c, paint) := by
  simp only [Line.glyphs, Line.of, List.flatMap_cons, List.flatMap_nil, List.append_nil]
  rw [Text.clusters_printed all, List.map_map]
  apply List.map_congr_left
  intro c member
  have glyph : Glyph.ofCluster [c] = letterGlyph c := by
    rw [Glyph.ofCluster, Text.columns_printed (all c member), letterGlyph,
      String.singleton_eq_ofList]
  rw [Function.comp_apply, glyph]

/-- Letters of one column each stand side by side, as many as there is room for. -/
theorem spots_letters (width : Nat) (letters : List Char) (paint : Paint) :
    spots width (letters.map fun c => (letterGlyph c, paint)) =
      (letters.take width).map fun c => .glyph (String.singleton c) paint := by
  induction letters generalizing width with
  | nil => simp [spots]
  | cons c later ih =>
      cases width with
      | zero => simp [spots, letterGlyph]
      | succ width => simp [spots, letterGlyph, ← ih]

/-- No row begins with more of a glyph before it. -/
theorem spots_head (width : Nat) (glyphs : List (Glyph × Paint)) :
    (spots width glyphs)[0]? ≠ some .covered := by
  fun_induction spots width glyphs with
  | case1 => nofun
  | case2 => nofun
  | case3 width glyph paint rest room later columnless ih => exact ih
  | case4 width glyph paint rest room later column ih => nofun

theorem paint_of_mem_spots {width : Nat} {glyphs : List (Glyph × Paint)} {symbol : String}
    {paint : Paint} (stands : .glyph symbol paint ∈ spots width glyphs) :
    ∃ glyph, (glyph, paint) ∈ glyphs := by
  fun_induction spots width glyphs with
  | case1 => cases stands
  | case2 => cases stands
  | case3 width glyph own rest room later columnless ih =>
      obtain ⟨other, member⟩ := ih stands
      exact ⟨other, List.mem_cons_of_mem _ member⟩
  | case4 width glyph own rest room later column ih =>
      rcases List.mem_cons.mp stands with first | further
      · cases first
        exact ⟨glyph, List.mem_cons_self⟩
      · rcases List.mem_append.mp further with covered | behind
        · cases List.eq_of_mem_replicate covered
        · obtain ⟨other, member⟩ := ih behind
          exact ⟨other, List.mem_cons_of_mem _ member⟩

theorem paint_of_mem_glyphs {text : String} {paint : Paint} {item : Glyph × Paint}
    (member : item ∈ (Line.of text paint).glyphs) : item.2 = paint := by
  simp only [Line.glyphs, Line.of, List.flatMap_cons, List.flatMap_nil, List.append_nil] at member
  obtain ⟨cluster, -, rfl⟩ := List.mem_map.mp member
  rfl

namespace Typesetter

/-- A printed text is set letter by letter, whichever other glyphs are left out of a line. -/
theorem setGlyphs_printed {text : String} (printed : ∀ c ∈ text.toList, Text.Printed c)
    (paint : Paint) {keep : Glyph × Paint → Bool}
    (kept : ∀ c ∈ text.toList, keep (letterGlyph c, paint) = true) (cover : Cell → Cell)
    {width column : Nat} (room : column < width) (cell : Cell) :
    (setGlyphs width ((Line.of text paint).glyphs.filter keep) cover).put column cell =
      cell.lettered paint text.toList[column]? := by
  have whole : (Line.of text paint).glyphs.filter keep =
      text.toList.map fun c => (letterGlyph c, paint) := by
    rw [glyphs_printed printed, List.filter_eq_self]
    intro item member
    obtain ⟨c, inside, rfl⟩ := List.mem_map.mp member
    exact kept c inside
  simp only [setGlyphs, whole, List.getElem?_toArray, spots_letters, List.getElem?_map,
    List.getElem?_take_of_lt room]
  cases text.toList[column]? <;> rfl

theorem inParagraph_of_printed {c : Char} (printed : Text.Printed c) {width : Nat}
    (room : 0 < width) : inParagraph width (letterGlyph c) = true := by
  have noFeed : String.singleton c ≠ "\n" := by
    intro same
    have feed : [c] = ['\n'] := by simpa using congrArg String.toList same
    cases feed
    exact absurd printed (by decide)
  simp [inParagraph, letterGlyph, noFeed, Nat.succ_le_of_lt room]

/-- The ways in which a text without paint can change a cell. -/
theorem setGlyphs_style (text : String) (keep : Glyph × Paint → Bool) (cover : Cell → Cell)
    (width column : Nat) (cell : Cell) :
    let set := setGlyphs width ((Line.of text {}).glyphs.filter keep) cover
    (set.put column cell).style = cell.style ∨ column ≠ 0 ∧ set.put column cell = cover cell := by
  intro set
  simp only [set, setGlyphs, List.getElem?_toArray]
  cases found : (spots width ((Line.of text {}).glyphs.filter keep))[column]? with
  | none => exact .inl rfl
  | some spot =>
      cases spot with
      | glyph symbol paint =>
          obtain ⟨glyph, member⟩ := paint_of_mem_spots (List.mem_of_getElem? found)
          have unpainted : paint = {} := paint_of_mem_glyphs (List.mem_filter.mp member).1
          exact .inl (by rw [unpainted]; rfl)
      | covered =>
          refine .inr ⟨?_, rfl⟩
          rintro rfl
          exact spots_head _ _ found

theorem plain_lawful : plain.Lawful where
  paragraph_letters := by
    intro text paint width column cell printed room
    have kept : ∀ c ∈ text.toList, inParagraph width (letterGlyph c) = true := fun c member =>
      inParagraph_of_printed (printed c member) (Nat.zero_lt_of_lt room)
    exact setGlyphs_printed printed paint kept id room cell
  item_letters := by
    intro text paint width column cell printed room
    have kept : ∀ c ∈ text.toList, decide (0 < (letterGlyph c).columns) = true := fun _ _ => rfl
    exact setGlyphs_printed printed paint kept (fun _ => {}) room cell
  item_style := by
    intro text width column cell
    exact (setGlyphs_style text _ _ width column cell).imp_right And.right
  item_first := by
    intro text width cell
    exact (setGlyphs_style text _ _ width 0 cell).resolve_right fun hidden => hidden.1 rfl

end Typesetter

end Terminal

end Chip8Inspector
