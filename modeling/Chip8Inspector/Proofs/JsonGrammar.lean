import Chip8Inspector.Catalog.Entry
import Chip8Inspector.Json.Skip
import Mathlib.Order.Nat

/-!
# How a catalog may be written

The rules of JSON, and which JSON texts list the entries of a catalog. Every rule relates a text to
what is left of it: it holds of a text that begins as the rule says and of the rest behind that. So
rules are put together by naming the texts in between, and nothing here depends on how a text is
read.
-/

namespace Chip8Inspector.Json

set_option autoImplicit false

/-! ## Blanks and marks -/

/-- Any number of blanks. -/
inductive Blanks : List Char → List Char → Prop where
  | none {rest : List Char} : Blanks rest rest
  | more {c : Char} {text rest : List Char} (blank : c ∈ [' ', '\n', '\t', '\r'])
      (later : Blanks text rest) : Blanks (c :: text) rest

/-- A single character, with any number of blanks before it. -/
def Mark (mark : Char) (text rest : List Char) : Prop :=
  Blanks text (mark :: rest)

/-! ## Strings -/

/-- The digits from `0` to `f`, in either case. -/
def HexDigit (c : Char) (value : Nat) : Prop :=
  value < 16 ∧ (c = value.digitChar ∨ c = value.digitChar.toUpper)

/-- Four hexadecimal digits, a unit of 16 bits. -/
inductive CodeUnit : List Char → Nat → List Char → Prop where
  | digits {a b c d : Char} {w x y z : Nat} {rest : List Char} (first : HexDigit a w)
      (second : HexDigit b x) (third : HexDigit c y) (fourth : HexDigit d z) :
      CodeUnit (a :: b :: c :: d :: rest) (4096 * w + 256 * x + 16 * y + z) rest

/-- The escapes of one letter, and what they stand for. -/
def letterEscapes : List (Char × Char) :=
  [('"', '"'), ('\\', '\\'), ('/', '/'), ('b', '\x08'), ('f', '\x0c'), ('n', '\n'), ('r', '\r'),
    ('t', '\t')]

/-- Characters that stand for themselves in a string. -/
def Plain (c : Char) : Prop :=
  c ≠ '"' ∧ c ≠ '\\' ∧ 0x20 ≤ c.toNat

/-- The ways to write one character of a string. A character that one unit has no room for takes
a pair of surrogates. -/
inductive Spelling : List Char → Char → List Char → Prop where
  | plain {c : Char} {rest : List Char} (plain : Plain c) : Spelling (c :: rest) c rest
  | letter {letter c : Char} {rest : List Char} (listed : (letter, c) ∈ letterEscapes) :
      Spelling ('\\' :: letter :: rest) c rest
  | unit {text rest : List Char} {c : Char} (unit : CodeUnit text c.toNat rest) :
      Spelling ('\\' :: 'u' :: text) c rest
  | pair {text between rest : List Char} {high low : Nat} {c : Char}
      (first : CodeUnit text high ('\\' :: 'u' :: between)) (second : CodeUnit between low rest)
      (highRange : 0xd800 ≤ high ∧ high ≤ 0xdbff) (lowRange : 0xdc00 ≤ low ∧ low ≤ 0xdfff)
      (meant : c.toNat = 0x10000 + 0x400 * (high - 0xd800) + (low - 0xdc00)) :
      Spelling ('\\' :: 'u' :: text) c rest

/-- The characters of a string up to and with the closing quotation mark. -/
inductive Spellings : List Char → List Char → List Char → Prop where
  | close {rest : List Char} : Spellings ('"' :: rest) [] rest
  | more {text later rest : List Char} {c : Char} {meant : List Char}
      (first : Spelling text c later) (others : Spellings later meant rest) :
      Spellings text (c :: meant) rest

/-- A string and what it means. -/
def Quoted (text : List Char) (meant : String) (rest : List Char) : Prop :=
  ∃ inner, Mark '"' text inner ∧ Spellings inner meant.toList rest

/-- The same for a string that need not mean anything: its units need not be characters. -/
inductive Raw : List Char → List Char → Prop where
  | close {rest : List Char} : Raw ('"' :: rest) rest
  | plain {c : Char} {text rest : List Char} (plain : Plain c) (others : Raw text rest) :
      Raw (c :: text) rest
  | letter {letter c : Char} {text rest : List Char} (listed : (letter, c) ∈ letterEscapes)
      (others : Raw text rest) : Raw ('\\' :: letter :: text) rest
  | unit {text later rest : List Char} {unit : Nat} (unit : CodeUnit text unit later)
      (others : Raw later rest) : Raw ('\\' :: 'u' :: text) rest

/-! ## Numbers -/

/-- At least one digit. -/
inductive Digits : List Char → List Char → Prop where
  | last {c : Char} {rest : List Char} (digit : c.isDigit = true) : Digits (c :: rest) rest
  | more {c : Char} {text rest : List Char} (digit : c.isDigit = true) (others : Digits text rest) :
      Digits (c :: text) rest

/-- Digits of which the first is not a zero, or a zero alone. -/
inductive Whole : List Char → List Char → Prop where
  | zero {rest : List Char} : Whole ('0' :: rest) rest
  | digits {c : Char} {text rest : List Char} (nonzero : c ≠ '0')
      (digits : Digits (c :: text) rest) : Whole (c :: text) rest

inductive Fraction : List Char → List Char → Prop where
  | none {rest : List Char} : Fraction rest rest
  | some {text rest : List Char} (digits : Digits text rest) : Fraction ('.' :: text) rest

inductive Sign : List Char → List Char → Prop where
  | none {rest : List Char} : Sign rest rest
  | plus {rest : List Char} : Sign ('+' :: rest) rest
  | minus {rest : List Char} : Sign ('-' :: rest) rest

inductive Exponent : List Char → List Char → Prop where
  | none {rest : List Char} : Exponent rest rest
  | some {e : Char} {text unsigned rest : List Char} (letter : e = 'e' ∨ e = 'E')
      (sign : Sign text unsigned) (digits : Digits unsigned rest) : Exponent (e :: text) rest

inductive Unsigned : List Char → List Char → Prop where
  | parts {text behindWhole behindFraction rest : List Char} (whole : Whole text behindWhole)
      (fraction : Fraction behindWhole behindFraction) (exponent : Exponent behindFraction rest) :
      Unsigned text rest

inductive Number : List Char → List Char → Prop where
  | positive {text rest : List Char} (unsigned : Unsigned text rest) : Number text rest
  | negative {text rest : List Char} (unsigned : Unsigned text rest) : Number ('-' :: text) rest

/-! ## Values -/

def Bracket.opening : Bracket → Char
  | .list => '['
  | .object => '\x7b'

def Bracket.closing : Bracket → Char
  | .list => ']'
  | .object => '\x7d'

/-- What stands before a value inside a bracket: in an object a name and a colon. -/
inductive Lead : Bracket → List Char → List Char → Prop where
  | list {text : List Char} : Lead .list text text
  | object {text name behindName rest : List Char} (quote : Mark '"' text name)
      (raw : Raw name behindName) (colon : Mark ':' behindName rest) : Lead .object text rest

mutual

/-- Any JSON value. -/
inductive Value : List Char → List Char → Prop where
  | word {text rest : List Char} {word : String} (listed : word ∈ ["null", "true", "false"])
      (word : Blanks text (word.toList ++ rest)) : Value text rest
  | number {text inner rest : List Char} (blanks : Blanks text inner) (number : Number inner rest) :
      Value text rest
  | string {text inner rest : List Char} (quote : Mark '"' text inner) (raw : Raw inner rest) :
      Value text rest
  | empty {bracket : Bracket} {text inner rest : List Char}
      (opening : Mark bracket.opening text inner) (closing : Mark bracket.closing inner rest) :
      Value text rest
  | filled {bracket : Bracket} {text inner rest : List Char}
      (opening : Mark bracket.opening text inner) (items : Items bracket inner rest) :
      Value text rest

/-- What is inside a bracket, up to and with the closing one. -/
inductive Items : Bracket → List Char → List Char → Prop where
  | first {bracket : Bracket} {text inner behind rest : List Char} (lead : Lead bracket text inner)
      (value : Value inner behind) (others : More bracket behind rest) : Items bracket text rest

/-- What may stand behind a value inside a bracket. -/
inductive More : Bracket → List Char → List Char → Prop where
  | close {bracket : Bracket} {text rest : List Char} (closing : Mark bracket.closing text rest) :
      More bracket text rest
  | comma {bracket : Bracket} {text later rest : List Char} (comma : Mark ',' text later)
      (items : Items bracket later rest) : More bracket text rest

end

/-! ## Catalogs -/

/-- A member of an entry: a field of it, or any other one. -/
inductive Member where
  | known (field : Field) (value : String)
  | other

/-- The value that a member gives for a field. -/
def Member.valueOf (wanted : Field) : Member → Option String
  | .known field value => if field = wanted then some value else none
  | .other => none

inductive MemberText : List Char → Member → List Char → Prop where
  | known {field : Field} {value : String} {text behindName inner rest : List Char}
      (named : Quoted text field.name behindName) (colon : Mark ':' behindName inner)
      (valued : Quoted inner value rest) : MemberText text (.known field value) rest
  | other {name : String} {text behindName inner rest : List Char}
      (named : Quoted text name behindName) (unknown : ∀ field : Field, name ≠ field.name)
      (colon : Mark ':' behindName inner) (valued : Value inner rest) : MemberText text .other rest

/-- At least one thing, with commas in between, up to and with the closing mark. -/
inductive Series {α : Type} (One : List Char → α → List Char → Prop) (closing : Char) :
    List Char → List α → List Char → Prop where
  | last {text behind rest : List Char} {item : α} (one : One text item behind)
      (close : Mark closing behind rest) : Series One closing text [item] rest
  | more {text behind later rest : List Char} {item : α} {items : List α}
      (one : One text item behind) (comma : Mark ',' behind later)
      (others : Series One closing later items rest) : Series One closing text (item :: items) rest

/-- An entry is written as a list of its two fields, or as an object in which each of them stands
once. -/
inductive EntryText : List Char → Entry → List Char → Prop where
  | pair {title file : String} {text inner behindTitle second behindFile rest : List Char}
      (opening : Mark '[' text inner) (titled : Quoted inner title behindTitle)
      (comma : Mark ',' behindTitle second) (filed : Quoted second file behindFile)
      (closing : Mark ']' behindFile rest) : EntryText text ⟨title, file⟩ rest
  | object {title file : String} {members : List Member} {text inner rest : List Char}
      (opening : Mark '\x7b' text inner) (series : Series MemberText '\x7d' inner members rest)
      (titles : members.filterMap (Member.valueOf .title) = [title])
      (files : members.filterMap (Member.valueOf .file) = [file]) :
      EntryText text ⟨title, file⟩ rest

/-- A text that lists some entries, and nothing else. -/
inductive CatalogText : List Char → List Entry → Prop where
  | empty {text inner rest : List Char} (opening : Mark '[' text inner)
      (closing : Mark ']' inner rest) (blanks : Blanks rest []) : CatalogText text []
  | filled {text inner rest : List Char} {entries : List Entry} (opening : Mark '[' text inner)
      (series : Series EntryText ']' inner entries rest) (blanks : Blanks rest []) :
      CatalogText text entries

/-! ## What is left is shorter -/

theorem Blanks.length_le {text rest : List Char} (blanks : Blanks text rest) :
    rest.length ≤ text.length := by
  induction blanks with
  | none => exact Nat.le_refl _
  | more _ _ ih => exact Nat.le_succ_of_le ih

theorem Mark.length_lt {mark : Char} {text rest : List Char} (found : Mark mark text rest) :
    rest.length < text.length :=
  Blanks.length_le found

theorem CodeUnit.length_lt {text rest : List Char} {unit : Nat} (found : CodeUnit text unit rest) :
    rest.length < text.length := by
  cases found
  simp only [List.length_cons]
  omega

theorem Spelling.length_lt {text rest : List Char} {c : Char} (found : Spelling text c rest) :
    rest.length < text.length := by
  cases found with
  | plain => exact Nat.lt_succ_self _
  | letter => exact Nat.lt_succ_of_lt (Nat.lt_succ_self _)
  | unit unit => exact Nat.lt_succ_of_lt (Nat.lt_succ_of_lt unit.length_lt)
  | pair first second =>
      have left := first.length_lt
      have right := second.length_lt
      simp only [List.length_cons] at left ⊢
      omega

theorem Spellings.length_lt {text meant rest : List Char} (found : Spellings text meant rest) :
    rest.length < text.length := by
  induction found with
  | close => exact Nat.lt_succ_self _
  | more first _ ih => exact ih.trans first.length_lt

theorem Quoted.length_lt {text rest : List Char} {meant : String}
    (found : Quoted text meant rest) : rest.length < text.length := by
  obtain ⟨inner, quote, spellings⟩ := found
  exact spellings.length_lt.trans quote.length_lt

theorem Raw.length_lt {text rest : List Char} (found : Raw text rest) :
    rest.length < text.length := by
  induction found with
  | close => exact Nat.lt_succ_self _
  | plain _ _ ih => exact Nat.lt_succ_of_lt ih
  | letter _ _ ih => exact Nat.lt_succ_of_lt (Nat.lt_succ_of_lt ih)
  | unit unit _ ih =>
      exact Nat.lt_succ_of_lt (Nat.lt_succ_of_lt (ih.trans unit.length_lt))

theorem Digits.length_lt {text rest : List Char} (found : Digits text rest) :
    rest.length < text.length := by
  induction found with
  | last => exact Nat.lt_succ_self _
  | more _ _ ih => exact Nat.lt_succ_of_lt ih

theorem Whole.length_lt {text rest : List Char} (found : Whole text rest) :
    rest.length < text.length := by
  cases found with
  | zero => exact Nat.lt_succ_self _
  | digits _ digits => exact digits.length_lt

theorem Fraction.length_le {text rest : List Char} (found : Fraction text rest) :
    rest.length ≤ text.length := by
  cases found with
  | none => exact Nat.le_refl _
  | some digits => exact Nat.le_succ_of_le digits.length_lt.le

theorem Sign.length_le {text rest : List Char} (found : Sign text rest) :
    rest.length ≤ text.length := by
  cases found with
  | none => exact Nat.le_refl _
  | plus => exact Nat.le_succ _
  | minus => exact Nat.le_succ _

theorem Exponent.length_le {text rest : List Char} (found : Exponent text rest) :
    rest.length ≤ text.length := by
  cases found with
  | none => exact Nat.le_refl _
  | some _ sign digits =>
      exact Nat.le_succ_of_le (digits.length_lt.le.trans sign.length_le)

theorem Unsigned.length_lt {text rest : List Char} (found : Unsigned text rest) :
    rest.length < text.length := by
  obtain ⟨whole, fraction, exponent⟩ := found
  exact exponent.length_le.trans_lt (fraction.length_le.trans_lt whole.length_lt)

theorem Number.length_lt {text rest : List Char} (found : Number text rest) :
    rest.length < text.length := by
  cases found with
  | positive unsigned => exact unsigned.length_lt
  | negative unsigned => exact Nat.lt_succ_of_lt unsigned.length_lt

theorem Lead.length_le {bracket : Bracket} {text rest : List Char}
    (found : Lead bracket text rest) : rest.length ≤ text.length := by
  cases found with
  | list => exact Nat.le_refl _
  | object quote raw colon =>
      exact (colon.length_lt.trans (raw.length_lt.trans quote.length_lt)).le

mutual

theorem Value.length_lt {text rest : List Char} : Value text rest → rest.length < text.length
  | .word listed word => by
      have within := word.length_le
      have letters : ∀ word ∈ ["null", "true", "false"], 0 < word.toList.length := by decide
      have some := letters _ listed
      rw [List.length_append] at within
      omega
  | .number blanks number => number.length_lt.trans_le blanks.length_le
  | .string quote raw => raw.length_lt.trans quote.length_lt
  | .empty opening closing => closing.length_lt.trans opening.length_lt
  | .filled opening items => items.length_lt.trans opening.length_lt

theorem Items.length_lt {bracket : Bracket} {text rest : List Char} :
    Items bracket text rest → rest.length < text.length
  | .first lead value others =>
      others.length_lt.trans (value.length_lt.trans_le lead.length_le)

theorem More.length_lt {bracket : Bracket} {text rest : List Char} :
    More bracket text rest → rest.length < text.length
  | .close closing => closing.length_lt
  | .comma comma items => items.length_lt.trans comma.length_lt

end

end Chip8Inspector.Json
