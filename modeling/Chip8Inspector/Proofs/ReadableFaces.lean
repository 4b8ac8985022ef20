import Chip8Inspector.Proofs.WidgetDisplay
import Mathlib.Algebra.Group.Nat.Defs
import Mathlib.Data.Nat.Digits.Lemmas
import Mathlib.Order.Monotone.Basic

/-!
# A face tells what is held

Everything that a widget holds can be read back from its face: the number of a readout from the
words at the end, in either base, location, word and text of a line from their fixed places, and
the number of lines of a listing from the length of its slots. So what looks the same is the same.
-/

namespace Chip8Inspector

set_option autoImplicit false

namespace Text

/-- The value of a digit, for bases up to sixteen. -/
def digitValue (digit : Char) : Nat :=
  if digit.isDigit then digit.toNat - '0'.toNat else digit.toNat - 'a'.toNat + 10

/-- The number that is written with some digits, most significant first. -/
def numberOf (base : Nat) (digits : List Char) : Nat :=
  digits.foldl (fun value digit => base * value + digitValue digit) 0

theorem digitValue_digitChar {digit : Nat} (bound : digit < 16) :
    digitValue digit.digitChar = digit := by
  have all : ∀ digit < 16, digitValue (Nat.digitChar digit) = digit := by decide
  exact all digit bound

theorem numberOf_concat (base : Nat) (digits : List Char) (last : Char) :
    numberOf base (digits ++ [last]) = base * numberOf base digits + digitValue last :=
  List.foldl_concat ..

theorem numberOf_toDigits {base : Nat} (two : 1 < base) (sixteen : base ≤ 16) (value : Nat) :
    numberOf base (Nat.toDigits base value) = value := by
  induction value using Nat.strongRecOn with
  | ind value ih =>
      rw [Nat.toDigits_eq_if two]
      by_cases single : value < base
      · rw [if_pos single]
        show base * 0 + digitValue value.digitChar = value
        rw [digitValue_digitChar (by omega), Nat.mul_zero, Nat.zero_add]
      · have smaller : value / base < value := Nat.div_lt_self (by omega) two
        have last : value % base < 16 := by
          have := Nat.mod_lt value (Nat.zero_lt_of_lt two)
          omega
        -- The digits before the last are those of the quotient.
        rw [if_neg single, numberOf_concat, ih _ smaller, digitValue_digitChar last]
        exact Nat.div_add_mod value base

theorem numberOf_padded (base count : Nat) (digits : List Char) :
    numberOf base (List.replicate count '0' ++ digits) = numberOf base digits := by
  induction count with
  | zero => rfl
  | succ count ih =>
      rw [List.replicate_succ, List.cons_append]
      exact ih

theorem numberOf_hexDigits (width value : Nat) : numberOf 16 (hexDigits width value) = value := by
  unfold hexDigits List.leftpad
  rw [numberOf_padded]
  exact numberOf_toDigits (by decide) (by decide) value

theorem numberOf_decimalDigits (value : Nat) : numberOf 10 (decimalDigits value) = value :=
  numberOf_toDigits (by decide) (by decide) value

theorem mem_toDigits {base value : Nat} {c : Char} (two : 1 < base)
    (member : c ∈ Nat.toDigits base value) : ∃ digit < base, c = digit.digitChar := by
  induction value using Nat.strongRecOn with
  | ind value ih =>
      rw [Nat.toDigits_eq_if two] at member
      by_cases single : value < base
      · rw [if_pos single] at member
        exact ⟨value, single, List.mem_singleton.mp member⟩
      · rw [if_neg single] at member
        rcases List.mem_append.mp member with front | last
        · exact ih _ (Nat.div_lt_self (by omega) two) front
        · exact ⟨value % base, Nat.mod_lt _ (by omega), List.mem_singleton.mp last⟩

theorem mem_hexDigits {width value : Nat} {c : Char} (member : c ∈ hexDigits width value) :
    ∃ digit < 16, c = digit.digitChar := by
  unfold hexDigits List.leftpad at member
  rcases List.mem_append.mp member with padding | digit
  · exact ⟨0, by decide, List.eq_of_mem_replicate padding⟩
  · exact mem_toDigits (by decide) digit

/-- A number is written with as many digits as it has, and zero with one. -/
theorem length_toDigits {base : Nat} (two : 1 < base) (value : Nat) :
    (Nat.toDigits base value).length = max (Nat.digits base value).length 1 := by
  apply eq_of_forall_ge_iff
  intro bound
  cases bound with
  | zero =>
      have written : 0 < (Nat.toDigits base value).length := Nat.length_toDigits_pos
      omega
  | succ bound =>
      rw [Nat.length_toDigits_le_iff two bound.succ_pos, max_le_iff, Nat.digits_length_le_iff two]
      exact (and_iff_left (Nat.le_add_left 1 bound)).symm

theorem length_hexDigits (width value : Nat) :
    (hexDigits width value).length = max width (max (Nat.digits 16 value).length 1) := by
  unfold hexDigits
  rw [List.length_leftpad, length_toDigits (by decide)]

theorem length_hexDigits_of_lt {width value : Nat} (wide : 0 < width) (fits : value < 16 ^ width) :
    (hexDigits width value).length = width := by
  have short : (Nat.digits 16 value).length ≤ width :=
    (Nat.digits_length_le_iff (by decide) value).mpr fits
  rw [length_hexDigits]
  omega

theorem digitChar_ne_blank {digit : Nat} (bound : digit < 16) : ' ' ≠ digit.digitChar := by
  have all : ∀ digit < 16, ' ' ≠ Nat.digitChar digit := by decide
  exact all digit bound

/-- The two numbers of a labelled value, the hexadecimal one first. They are the last words of the
text, so that it does not matter what the label holds. -/
def readLabelled? (text : String) : Option (Nat × Nat) :=
  match (text.toList.splitOn ' ').reverse with
  | decimal :: ['/'] :: ('0' :: 'x' :: hexadecimal) :: _ =>
      some (numberOf 16 hexadecimal, numberOf 10 decimal)
  | _ => none

theorem labelled_words (label : String) (width value : Nat) :
    (labelled label width value).toList.splitOn ' ' =
      (label.toList ++ [':']).splitOn ' ' ++
        ['0' :: 'x' :: hexDigits width value, ['/'], decimalDigits value] := by
  have letters : (labelled label width value).toList =
      (label.toList ++ [':']) ++ ' ' ::
        [' '].intercalate ['0' :: 'x' :: hexDigits width value, ['/'], decimalDigits value] := by
    simp [labelled, hexMarked, hex, decimal, List.intercalate]
  rw [letters, List.splitOn_append_cons_self, List.splitOn_intercalate _ _ (List.cons_ne_nil _ _)]
  -- The label may hold blanks, but none of the three words behind it does.
  intro word member blank
  simp only [List.mem_cons, List.not_mem_nil, or_false] at member
  rcases member with rfl | rfl | rfl
  · simp only [List.mem_cons, Char.reduceEq, false_or] at blank
    obtain ⟨digit, bound, same⟩ := mem_hexDigits blank
    exact digitChar_ne_blank bound same
  · exact absurd blank (by decide)
  · obtain ⟨digit, bound, same⟩ := mem_toDigits (by decide) blank
    exact digitChar_ne_blank (by omega) same

theorem readLabelled_labelled (label : String) (width value : Nat) :
    readLabelled? (labelled label width value) = some (value, value) := by
  unfold readLabelled?
  rw [labelled_words, List.reverse_append]
  show some (numberOf 16 (hexDigits width value), numberOf 10 (decimalDigits value)) = _
  rw [numberOf_hexDigits, numberOf_decimalDigits]

/-- Under one label no two numbers look the same. -/
theorem labelled_injective (label : String) (width : Nat) :
    Function.Injective (labelled label width) := by
  intro left right same
  have numbers : some (left, left) = some (right, right) := by
    rw [← readLabelled_labelled label width left, same, readLabelled_labelled]
  exact congrArg Prod.fst (Option.some.inj numbers)

end Text

theorem wordOfBytes_injective {high low otherHigh otherLow : UInt8}
    (same : wordOfBytes high low = wordOfBytes otherHigh otherLow) :
    high = otherHigh ∧ low = otherLow := by
  have value := congrArg UInt16.toNat same
  rw [toNat_wordOfBytes, toNat_wordOfBytes] at value
  have := low.toNat_lt
  have := otherLow.toNat_lt
  constructor
  · exact UInt8.toNat_inj.mp (by omega)
  · exact UInt8.toNat_inj.mp (by omega)

/-- Four digits are enough for sixteen bits. -/
theorem fourDigits_length (bits : UInt16) : (Text.hexDigits 4 bits.toNat).length = 4 :=
  Text.length_hexDigits_of_lt (by decide) bits.toNat_lt

theorem fourDigits_read (bits : UInt16) :
    UInt16.ofNat (Text.numberOf 16 (Text.hexDigits 4 bits.toNat)) = bits := by
  rw [Text.numberOf_hexDigits]
  exact UInt16.ofNat_toNat

namespace LineContent

theorem face_letters (content : LineContent) :
    content.face.text.toList =
      ['0', 'x'] ++ (Text.hexDigits 4 content.location.toNat ++ ([':', ' '] ++
        (Text.hexDigits 4 content.word.toNat ++ ([' ', '-', ' '] ++ content.text.toList)))) := by
  simp only [face, Text.hexMarked, Text.hex, String.toList_append, String.toList_ofList,
    List.append_assoc]
  rfl

/-- Location, word and text of a line from its letters. All that stands before the text has a
fixed width, so that the text may hold anything. -/
def read (text : String) : UInt16 × UInt16 × String :=
  let letters := text.toList
  (UInt16.ofNat (Text.numberOf 16 ((letters.drop 2).take 4)),
    UInt16.ofNat (Text.numberOf 16 ((letters.drop 8).take 4)), String.ofList (letters.drop 15))

theorem read_face (content : LineContent) :
    read content.face.text = (content.location, content.word, content.text) := by
  -- What is dropped at a later place drops the four digits before it whole.
  have beyond : ∀ (bits : UInt16) (count : Nat), 4 ≤ count →
      (Text.hexDigits 4 bits.toNat).drop count = [] := by
    intro bits count long
    exact List.drop_eq_nil_of_le ((fourDigits_length bits).trans_le long)
  unfold read
  rw [face_letters]
  simp [List.drop_append, fourDigits_length, fourDigits_read, beyond]

example : read "0x0200: 1234 - 0x0300: 5678 - JP" = (0x200, 0x1234, "0x0300: 5678 - JP") := by
  decide

/-- Two lines that look the same hold the same. -/
theorem face_injective : Function.Injective face := by
  intro left right same
  have fields : (left.location, left.word, left.text) =
      (right.location, right.word, right.text) := by
    rw [← read_face left, same, read_face]
  have current : left.current = right.current := congrArg Face.highlighted same
  obtain ⟨location, rest⟩ := Prod.mk.inj fields
  obtain ⟨word, text⟩ := Prod.mk.inj rest
  obtain ⟨high, low⟩ := wordOfBytes_injective word
  cases left
  cases right
  rw [mk.injEq]
  exact ⟨current, location, high, low, text⟩

end LineContent

theorem intercalate_grows (separator : String) (parts : List String) {last : String}
    (letters : 0 < last.length) :
    (separator.intercalate parts).length < (separator.intercalate (parts ++ [last])).length := by
  induction parts with
  | nil => simpa using letters
  | cons first rest ih =>
      cases rest with
      | nil =>
          simp only [List.cons_append, List.nil_append, String.intercalate_cons_cons,
            String.intercalate_singleton, String.length_append]
          omega
      | cons second others =>
          simp only [List.cons_append, String.intercalate_cons_cons, String.length_append] at ih ⊢
          omega

theorem lineSlot_letters (position : Nat) : 0 < (lineSlot position).length := by
  show 0 < ("disassembler-line-" ++ Text.decimal position).length
  rw [String.length_append]
  exact Nat.lt_of_lt_of_le (by decide) (Nat.le_add_right _ _)

/-- Every line more makes the list of slots longer. -/
theorem lineSlots_injective :
    Function.Injective fun count => slotsFace ((List.range count).map lineSlot) := by
  have grows : StrictMono fun count =>
      (slotsFace ((List.range count).map lineSlot)).text.length := by
    apply strictMono_nat_of_lt_succ
    intro count
    rw [List.range_succ, List.map_append]
    exact intercalate_grows "\n" _ (lineSlot_letters count)
  intro left right same
  exact grows.injective (congrArg (fun face => face.text.length) same)

end Chip8Inspector
