import Chip8Inspector.Proofs.ReadableFaces
import Chip8Inspector.Settings

/-!
# What a command line sets

A command line is a row of pieces: pairs of a flag and its value, and at most one path. If the
arguments split into such pieces then every setting is the last value that was given for it, or its
default. Otherwise the arguments begin with such pieces, as many as there are, and the one behind
them is to blame.
-/

namespace Chip8Inspector

set_option autoImplicit false

namespace Settings

/-- A decimal numeral: at least one digit, and at most one plus sign before them. -/
def Numeral (text : String) (value : Nat) : Prop :=
  ∃ digits : List Char, digits ≠ [] ∧ (∀ c ∈ digits, '0' ≤ c ∧ c ≤ '9') ∧
    (text.toList = digits ∨ text.toList = '+' :: digits) ∧ Text.numberOf 10 digits = value

/-- Whether a flag has room for a value. -/
def Flag.Holds : Flag → Nat → Prop
  | .fps, value | .hold, value => value < 2 ^ 32
  | .before, value | .after, value => value < 2 ^ 16

def Flag.RefusesZero (flag : Flag) : Prop :=
  flag = .fps ∨ flag = .hold

/-- The values that a flag may have. -/
def Flag.Accepts (flag : Flag) (value : Nat) : Prop :=
  flag.Holds value ∧ (flag.RefusesZero → value ≠ 0)

/-- Whether an argument looks like a flag. -/
def IsOption (argument : String) : Prop :=
  ['-', '-'] <+: argument.toList

inductive Piece where
  | pair (flag : Flag) (text : String)
  | path (text : String)

def Piece.arguments : Piece → List String
  | .pair flag text => [flag.spelling, text]
  | .path text => [text]

/-- What a piece is about: one of the flags, or the path. -/
def Piece.subject : Piece → Option Flag
  | .pair flag _ => some flag
  | .path _ => none

def Piece.text : Piece → String
  | .pair _ text => text
  | .path text => text

def Piece.Valid : Piece → Prop
  | .pair flag text => ∃ value, Numeral text value ∧ flag.Accepts value
  | .path text => ¬IsOption text

/-- Everything that is said about one subject, in its order. -/
def said (subject : Option Flag) (pieces : List Piece) : List String :=
  (pieces.filter fun piece => piece.subject = subject).map Piece.text

/-- A command line that can be followed. -/
structure Line (pieces : List Piece) : Prop where
  valid : ∀ piece ∈ pieces, piece.Valid
  onePath : (said none pieces).length ≤ 1

def spelled (pieces : List Piece) : List String :=
  pieces.flatMap Piece.arguments

def get (settings : Settings) : Flag → Nat
  | .fps => settings.frameRate
  | .before => settings.window.before
  | .after => settings.window.after
  | .hold => settings.holdFrames

/-- Each setting is the last one that was given, or its default. -/
structure Follows (pieces : List Piece) (settings : Settings) : Prop where
  value : ∀ flag, match (said (some flag) pieces).getLast? with
    | none => settings.get flag = ({} : Settings).get flag
    | some text => Numeral text (settings.get flag)
  path : settings.catalog = (said none pieces).getLast?.getD ({} : Settings).catalog

/-- What is wrong with the arguments behind a command line that can be followed, and in which a
path was given or not. -/
inductive Offence (pathGiven : Prop) : List String → SettingsError → Prop where
  | noValue (flag : Flag) : Offence pathGiven [flag.spelling] (.missingValue flag.spelling)
  | badValue (flag : Flag) (text : String) (rest : List String)
      (bad : ∀ value, Numeral text value → ¬flag.Holds value) :
      Offence pathGiven (flag.spelling :: text :: rest) (.invalidValue flag.spelling text)
  | zero (flag : Flag) (text : String) (rest : List String) (zero : Numeral text 0)
      (refused : flag.RefusesZero) :
      Offence pathGiven (flag.spelling :: text :: rest) (.invalidValue flag.spelling "0")
  | unknown (argument : String) (rest : List String) (looksLike : IsOption argument)
      (unlike : ∀ flag : Flag, argument ≠ flag.spelling) :
      Offence pathGiven (argument :: rest) (.unknownOption argument)
  | secondPath (argument : String) (rest : List String) (plain : ¬IsOption argument)
      (given : pathGiven) : Offence pathGiven (argument :: rest) (.unknownOption argument)

/-! ## Numerals -/

theorem digitValue_some_iff (c : Char) (digit : Nat) :
    digitValue? c = some digit ↔ ('0' ≤ c ∧ c ≤ '9') ∧ Text.digitValue c = digit := by
  unfold digitValue?
  by_cases inside : '0' ≤ c ∧ c ≤ '9'
  · have isDigit : c.isDigit = true := by simpa [Char.isDigit, Char.le_def] using inside
    simp [inside, Text.digitValue, isDigit]
  · simp [inside]

theorem digitsValue_some_iff (start : Nat) (digits : List Char) (value : Nat) :
    digitsValue? start digits = some value ↔
      (∀ c ∈ digits, '0' ≤ c ∧ c ≤ '9') ∧
        digits.foldl (fun value digit => 10 * value + Text.digitValue digit) start = value := by
  induction digits generalizing start with
  | nil => simp [digitsValue?]
  | cons c rest ih =>
      simp only [digitsValue?, Option.bind_eq_bind, Option.bind_eq_some_iff, digitValue_some_iff,
        ih, List.forall_mem_cons, List.foldl_cons]
      constructor
      · rintro ⟨digit, ⟨inside, rfl⟩, later, sum⟩
        exact ⟨⟨inside, later⟩, sum⟩
      · rintro ⟨⟨inside, later⟩, sum⟩
        exact ⟨_, ⟨inside, rfl⟩, later, sum⟩

theorem unsigned_some_iff (text : String) (value : Nat) :
    unsigned? text.toList = some value ↔ Numeral text value := by
  have written (digits : List Char) (some_digit : digits ≠ []) :
      digitsValue? 0 digits = some value ↔
        (∀ c ∈ digits, '0' ≤ c ∧ c ≤ '9') ∧ Text.numberOf 10 digits = value :=
    digitsValue_some_iff 0 digits value
  unfold Numeral
  constructor
  · intro read
    unfold unsigned? at read
    split at read
    · cases read
    · cases read
    · next c rest spelled =>
        obtain ⟨digits, number⟩ := (written _ (List.cons_ne_nil c rest)).mp read
        exact ⟨c :: rest, List.cons_ne_nil c rest, digits, .inr spelled, number⟩
    · next c rest _ _ spelled =>
        obtain ⟨digits, number⟩ := (written _ (List.cons_ne_nil c rest)).mp read
        exact ⟨c :: rest, List.cons_ne_nil c rest, digits, .inl spelled, number⟩
  · rintro ⟨digits, some_digit, inside, spelled, number⟩
    have read := (written digits some_digit).mpr ⟨inside, number⟩
    obtain ⟨c, rest, rfl⟩ := List.exists_cons_of_ne_nil some_digit
    rcases spelled with bare | signed
    · have noSign : c ≠ '+' := by
        rintro rfl
        exact absurd (inside '+' List.mem_cons_self) (by decide)
      rw [bare, unsigned?]
      · exact read
      all_goals simp [noSign]
    · rw [signed]
      exact read

theorem Numeral.unique {text : String} {first second : Nat} (left : Numeral text first)
    (right : Numeral text second) : first = second := by
  rw [← unsigned_some_iff] at left right
  exact Option.some.inj (left.symm.trans right)

theorem limit_holds (flag : Flag) (value : Nat) : ¬flag.limit < value ↔ flag.Holds value := by
  cases flag <;> simp only [Flag.limit, Flag.Holds, UInt32.size, UInt16.size] <;> omega

theorem positive_refuses (flag : Flag) : flag.positive = true ↔ flag.RefusesZero := by
  cases flag <;> simp [Flag.positive, Flag.RefusesZero]

/-- The three ways in which a text can be read for a flag. -/
theorem read_cases (flag : Flag) (text : String) :
    (∃ value, flag.read text = .ok value ∧ Numeral text value ∧ flag.Accepts value) ∨
      (flag.read text = .error (.invalidValue flag.spelling text) ∧
        ∀ value, Numeral text value → ¬flag.Holds value) ∨
      flag.read text = .error (.invalidValue flag.spelling "0") ∧ Numeral text 0 ∧
        flag.RefusesZero := by
  cases spelled : unsigned? text.toList with
  | none =>
      refine .inr (.inl ⟨by rw [Flag.read, spelled], fun value numeral => ?_⟩)
      rw [← unsigned_some_iff, spelled] at numeral
      cases numeral
  | some value =>
      have numeral := (unsigned_some_iff text value).mp spelled
      by_cases large : flag.limit < value
      · refine .inr (.inl ⟨by rw [Flag.read, spelled]; exact if_pos large, ?_⟩)
        intro other again
        rw [← limit_holds, ← numeral.unique again, not_not]
        exact large
      · have holds := (limit_holds flag value).mp large
        by_cases refused : flag.positive = true ∧ value = 0
        · obtain ⟨positive, rfl⟩ := refused
          refine .inr (.inr ⟨?_, numeral, (positive_refuses flag).mp positive⟩)
          simp [Flag.read, spelled, positive]
        · refine .inl ⟨value, ?_, numeral, holds, fun refuses none => refused ⟨?_, none⟩⟩
          · simpa [Flag.read, spelled, large] using refused
          · exact (positive_refuses flag).mpr refuses

/-! ## Pieces -/

theorem isOption_spelling (flag : Flag) : IsOption flag.spelling := by
  cases flag <;> simp [IsOption, Flag.spelling]

theorem ofArgument_spelling (flag : Flag) : Flag.ofArgument? flag.spelling = some flag := by
  cases flag <;> rfl

theorem spelling_of_ofArgument {argument : String} {flag : Flag}
    (known : Flag.ofArgument? argument = some flag) : flag.spelling = argument := by
  simpa using List.find?_some known

theorem ofArgument_none_iff (argument : String) :
    Flag.ofArgument? argument = none ↔ ∀ flag : Flag, argument ≠ flag.spelling := by
  constructor
  · rintro unknown flag rfl
    rw [ofArgument_spelling] at unknown
    cases unknown
  · intro unlike
    cases found : Flag.ofArgument? argument with
    | none => rfl
    | some flag => exact absurd (spelling_of_ofArgument found).symm (unlike flag)

theorem startsWith_iff (argument : String) :
    argument.startsWith "--" = true ↔ IsOption argument :=
  String.startsWith_string_iff

theorem readFrom_pair (settings : Settings) (seen : Bool) (flag : Flag) (text : String)
    (rest : List String) :
    readFrom settings seen (flag.spelling :: text :: rest) =
      match flag.read text with
      | .error cause => .error cause
      | .ok value => readFrom (settings.set flag value) seen rest := by
  cases read : flag.read text with
  | error cause => simp only [readFrom, ofArgument_spelling, read]
  | ok value => simp only [readFrom, ofArgument_spelling, read]

theorem readFrom_plain (settings : Settings) (seen : Bool) {argument : String}
    (plain : ¬IsOption argument) (rest : List String) :
    readFrom settings seen (argument :: rest) =
      if seen then .error (.unknownOption argument)
      else readFrom { settings with catalog := argument } true rest := by
  have unlike : Flag.ofArgument? argument = none := by
    rw [ofArgument_none_iff]
    rintro flag rfl
    exact plain (isOption_spelling flag)
  rw [readFrom, unlike, if_neg (mt (startsWith_iff argument).mp plain)]

/-- The number that a numeral stands for. -/
def numeralValue (text : String) : Nat :=
  (unsigned? text.toList).getD 0

theorem numeralValue_eq {text : String} {value : Nat} (numeral : Numeral text value) :
    numeralValue text = value := by
  rw [numeralValue, (unsigned_some_iff text value).mpr numeral, Option.getD_some]

def applyTo (settings : Settings) : Piece → Settings
  | .pair flag text => settings.set flag (numeralValue text)
  | .path text => { settings with catalog := text }

/-- The settings after some pieces. -/
def followed (settings : Settings) (pieces : List Piece) : Settings :=
  pieces.foldl applyTo settings

theorem said_append (subject : Option Flag) (first second : List Piece) :
    said subject (first ++ second) = said subject first ++ said subject second := by
  simp [said]

theorem said_singleton (subject : Option Flag) (piece : Piece) :
    said subject [piece] = if piece.subject = subject then [piece.text] else [] := by
  unfold said
  split <;> simp_all

theorem mem_said {piece : Piece} {pieces : List Piece} :
    piece ∈ pieces ↔ piece.text ∈ said piece.subject pieces := by
  simp only [said, List.mem_map, List.mem_filter, decide_eq_true_eq]
  constructor
  · intro member
    exact ⟨piece, ⟨member, rfl⟩, rfl⟩
  · rintro ⟨other, ⟨member, subject⟩, text⟩
    cases piece <;> cases other <;> simp_all [Piece.subject, Piece.text]

theorem get_set (settings : Settings) (flag other : Flag) (value : Nat) :
    (settings.set flag value).get other = if flag = other then value else settings.get other := by
  cases flag <;> cases other <;> rfl

theorem ext_get {first second : Settings} (values : ∀ flag, first.get flag = second.get flag)
    (path : first.catalog = second.catalog) : first = second := by
  obtain ⟨_, _, ⟨_, _⟩, _⟩ := first
  obtain ⟨_, _, ⟨_, _⟩, _⟩ := second
  cases path
  cases values .fps
  cases values .before
  cases values .after
  cases values .hold
  rfl

/-- The last value that is given for a flag counts, by induction from the end of the pieces. -/
theorem get_followed (settings : Settings) (pieces : List Piece) (flag : Flag) :
    (followed settings pieces).get flag =
      (((said (some flag) pieces).getLast?).map numeralValue).getD (settings.get flag) := by
  induction pieces using List.reverseRecOn with
  | nil => rfl
  | append_singleton pieces piece ih =>
      have last : followed settings (pieces ++ [piece]) =
          (followed settings pieces).applyTo piece := List.foldl_concat ..
      rw [last, said_append, said_singleton]
      cases piece with
      | pair other text =>
          by_cases same : other = flag
          · simp [applyTo, get_set, Piece.subject, Piece.text, same]
          · simp [applyTo, get_set, Piece.subject, same, ih]
      | path text =>
          rw [if_neg (by simp [Piece.subject]), List.append_nil, ← ih]
          cases flag <;> rfl

theorem catalog_followed (settings : Settings) (pieces : List Piece) :
    (followed settings pieces).catalog =
      (said none pieces).getLast?.getD settings.catalog := by
  induction pieces using List.reverseRecOn with
  | nil => rfl
  | append_singleton pieces piece ih =>
      have last : followed settings (pieces ++ [piece]) =
          (followed settings pieces).applyTo piece := List.foldl_concat ..
      rw [last, said_append, said_singleton]
      cases piece with
      | pair flag text =>
          rw [if_neg (by simp [Piece.subject]), List.append_nil, ← ih]
          cases flag <;> rfl
      | path text => simp [applyTo, Piece.subject, Piece.text]

/-- What is given for a flag is a numeral of a value that the flag accepts. -/
theorem said_valid {pieces : List Piece} (valid : ∀ piece ∈ pieces, piece.Valid) {flag : Flag}
    {text : String} (given : text ∈ said (some flag) pieces) :
    ∃ value, Numeral text value ∧ flag.Accepts value :=
  valid (.pair flag text) (mem_said.mpr given)

theorem followed_follows {pieces : List Piece} (valid : ∀ piece ∈ pieces, piece.Valid) :
    Follows pieces (followed {} pieces) where
  value flag := by
    rw [get_followed]
    cases last : (said (some flag) pieces).getLast? with
    | none => rfl
    | some text =>
        obtain ⟨value, numeral, -⟩ := said_valid valid (List.mem_of_getLast? last)
        rw [Option.map_some, Option.getD_some, numeralValue_eq numeral]
        exact numeral
  path := catalog_followed {} pieces

theorem followed_congr {pieces moved : List Piece}
    (same : ∀ subject, said subject moved = said subject pieces) :
    followed {} moved = followed {} pieces := by
  apply ext_get
  · intro flag
    rw [get_followed, get_followed, same]
  · rw [catalog_followed, catalog_followed, same]

theorem Line.moved {pieces moved : List Piece} (line : Line pieces)
    (same : ∀ subject, said subject moved = said subject pieces) : Line moved where
  valid piece member := by
    apply line.valid
    rw [mem_said, ← same, ← mem_said]
    exact member
  onePath := by
    rw [same]
    exact line.onePath

/-- A flag that refuses zero stays positive. -/
theorem Follows.positive {pieces : List Piece} {settings : Settings}
    (follows : Follows pieces settings) (valid : ∀ piece ∈ pieces, piece.Valid) (flag : Flag)
    (refuses : flag.RefusesZero) : 0 < settings.get flag := by
  have value := follows.value flag
  cases last : (said (some flag) pieces).getLast? with
  | none =>
      rw [last] at value
      rw [value]
      rcases refuses with rfl | rfl <;> decide
  | some text =>
      rw [last] at value
      obtain ⟨given, numeral, -, nonzero⟩ := said_valid valid (List.mem_of_getLast? last)
      rw [value.unique numeral]
      exact Nat.pos_of_ne_zero (nonzero refuses)

/-! ## Arguments -/

/-- The paths of some pieces, and the one that was given before them. -/
def pathCount (seen : Bool) (pieces : List Piece) : Nat :=
  seen.toNat + (said none pieces).length

theorem pathCount_pair (seen : Bool) (flag : Flag) (text : String) (later : List Piece) :
    pathCount seen (.pair flag text :: later) = pathCount seen later := by
  simp [pathCount, said, Piece.subject]

theorem pathCount_path (text : String) (later : List Piece) :
    pathCount false (.path text :: later) = pathCount true later := by
  simp [pathCount, said, Piece.subject, Nat.add_comm]

theorem read_valid {flag : Flag} {text : String} {value : Nat} (numeral : Numeral text value)
    (accepts : flag.Accepts value) : flag.read text = .ok (numeralValue text) := by
  rcases read_cases flag text with ⟨other, read, again, -⟩ | ⟨-, bad⟩ | ⟨-, zero, refuses⟩
  · rw [read, numeralValue_eq again]
  · exact absurd accepts.1 (bad value numeral)
  · exact absurd (numeral.unique zero) (accepts.2 refuses)

/-- Reading goes through pieces of a command line one after another. -/
theorem readFrom_pieces (settings : Settings) {seen : Bool} {pieces : List Piece}
    (valid : ∀ piece ∈ pieces, piece.Valid) (onePath : pathCount seen pieces ≤ 1)
    (rest : List String) :
    readFrom settings seen (spelled pieces ++ rest) =
      readFrom (followed settings pieces) (decide (0 < pathCount seen pieces)) rest := by
  induction pieces generalizing settings seen with
  | nil => cases seen <;> rfl
  | cons piece later ih =>
      rw [List.forall_mem_cons] at valid
      obtain ⟨own, others⟩ := valid
      cases piece with
      | pair flag text =>
          obtain ⟨value, numeral, accepts⟩ := own
          rw [pathCount_pair] at onePath ⊢
          have step := readFrom_pair settings seen flag text (spelled later ++ rest)
          rw [read_valid numeral accepts] at step
          exact step.trans (ih _ others onePath)
      | path text =>
          have unseen : seen = false := by
            cases seen with
            | false => rfl
            | true =>
                have two : pathCount true (.path text :: later) =
                    1 + (1 + (said none later).length) := congrArg (1 + ·) (Nat.add_comm _ 1)
                omega
          subst unseen
          rw [pathCount_path] at onePath ⊢
          have step := readFrom_plain settings false own (spelled later ++ rest)
          exact step.trans (ih _ others onePath)

theorem readFrom_offence {settings : Settings} {seen : Bool} {rest : List String}
    {cause : SettingsError} (offence : Offence (seen = true) rest cause) :
    readFrom settings seen rest = .error cause := by
  cases offence with
  | noValue flag => rw [readFrom, ofArgument_spelling]
  | badValue flag text rest bad =>
      rw [readFrom_pair]
      rcases read_cases flag text with ⟨value, -, numeral, accepts⟩ | ⟨read, -⟩ | ⟨-, zero, -⟩
      · exact absurd accepts.1 (bad value numeral)
      · rw [read]
      · exact absurd (by cases flag <;> simp [Flag.Holds]) (bad 0 zero)
  | zero flag text rest zero refuses =>
      rw [readFrom_pair]
      rcases read_cases flag text with ⟨value, -, numeral, accepts⟩ | ⟨-, bad⟩ | ⟨read, -, -⟩
      · exact absurd (numeral.unique zero) (accepts.2 refuses)
      · exact absurd (by cases flag <;> simp [Flag.Holds]) (bad 0 zero)
      · rw [read]
  | unknown argument rest looksLike unlike =>
      rw [readFrom, (ofArgument_none_iff argument).mpr unlike]
      exact if_pos ((startsWith_iff argument).mpr looksLike)
  | secondPath argument rest plain given =>
      rw [readFrom_plain settings seen plain, given]
      rfl

/-- Arguments are pieces of a command line to their end, or up to one that is to blame. -/
def Splits (seen : Bool) (arguments : List String) : Prop :=
  ∃ pieces rest, (∀ piece ∈ pieces, piece.Valid) ∧ pathCount seen pieces ≤ 1 ∧
    arguments = spelled pieces ++ rest ∧
    (rest = [] ∨ ∃ cause, Offence (0 < pathCount seen pieces) rest cause)

theorem splits_nil (seen : Bool) : Splits seen [] :=
  ⟨[], [], List.forall_mem_nil _, Bool.toNat_le seen, rfl, .inl rfl⟩

theorem splits_offence {seen : Bool} {arguments : List String} {cause : SettingsError}
    (offence : Offence (seen = true) arguments cause) : Splits seen arguments := by
  have given : (0 < pathCount seen []) = (seen = true) := by
    cases seen <;> simp [pathCount, said]
  refine ⟨[], arguments, List.forall_mem_nil _, Bool.toNat_le seen, rfl, .inr ⟨cause, ?_⟩⟩
  rw [given]
  exact offence

theorem splits_pair {seen : Bool} {flag : Flag} {text : String} {later : List String}
    (valid : (Piece.pair flag text).Valid) (splits : Splits seen later) :
    Splits seen (flag.spelling :: text :: later) := by
  obtain ⟨pieces, rest, others, onePath, rfl, ends⟩ := splits
  refine ⟨.pair flag text :: pieces, rest, ?_, ?_, rfl, ?_⟩
  · rw [List.forall_mem_cons]
    exact ⟨valid, others⟩
  · rw [pathCount_pair]
    exact onePath
  · rw [pathCount_pair]
    exact ends

theorem splits_path {argument : String} {later : List String} (plain : ¬IsOption argument)
    (splits : Splits true later) : Splits false (argument :: later) := by
  obtain ⟨pieces, rest, others, onePath, rfl, ends⟩ := splits
  refine ⟨.path argument :: pieces, rest, ?_, ?_, rfl, ?_⟩
  · rw [List.forall_mem_cons]
    exact ⟨plain, others⟩
  · rw [pathCount_path]
    exact onePath
  · rw [pathCount_path]
    exact ends

/-- By induction on the number of arguments, since a pair takes two of them. -/
theorem arguments_split (seen : Bool) (arguments : List String) : Splits seen arguments := by
  induction size : arguments.length using Nat.strongRecOn generalizing seen arguments with
  | ind size ih =>
      cases arguments with
      | nil => exact splits_nil seen
      | cons argument later =>
          rw [List.length_cons] at size
          by_cases option : IsOption argument
          · cases known : Flag.ofArgument? argument with
            | none =>
                exact splits_offence
                  (.unknown argument later option ((ofArgument_none_iff argument).mp known))
            | some flag =>
                obtain rfl := spelling_of_ofArgument known
                cases later with
                | nil => exact splits_offence (.noValue flag)
                | cons text rest =>
                    rw [List.length_cons] at size
                    rcases read_cases flag text with
                      ⟨value, -, numeral, accepts⟩ | ⟨-, bad⟩ | ⟨-, zero, refuses⟩
                    · exact splits_pair ⟨value, numeral, accepts⟩
                        (ih rest.length (by omega) seen rest rfl)
                    · exact splits_offence (.badValue flag text rest bad)
                    · exact splits_offence (.zero flag text rest zero refuses)
          · cases seen with
            | true => exact splits_offence (.secondPath argument later option rfl)
            | false => exact splits_path option (ih later.length (by omega) true later rfl)

theorem ofArguments_line {pieces : List Piece} (line : Line pieces) :
    ofArguments (spelled pieces) = .ok (followed {} pieces) := by
  have onePath : pathCount false pieces ≤ 1 := by simpa [pathCount] using line.onePath
  have read := readFrom_pieces {} line.valid onePath []
  rw [List.append_nil] at read
  exact read

theorem ofArguments_offence {pieces : List Piece} (line : Line pieces) {rest : List String}
    {cause : SettingsError} (offence : Offence (said none pieces ≠ []) rest cause) :
    ofArguments (spelled pieces ++ rest) = .error cause := by
  have onePath : pathCount false pieces ≤ 1 := by simpa [pathCount] using line.onePath
  have given : (decide (0 < pathCount false pieces) = true) = (said none pieces ≠ []) := by
    simp [pathCount, List.length_pos_iff]
  rw [ofArguments, readFrom_pieces _ line.valid onePath]
  apply readFrom_offence
  rw [given]
  exact offence

theorem ofArguments_cases (arguments : List String) :
    (∃ pieces, Line pieces ∧ arguments = spelled pieces) ∨
      ∃ pieces rest cause, Line pieces ∧ arguments = spelled pieces ++ rest ∧
        Offence (said none pieces ≠ []) rest cause := by
  obtain ⟨pieces, rest, valid, onePath, rfl, ends⟩ := arguments_split false arguments
  have line : Line pieces := ⟨valid, by simpa [pathCount] using onePath⟩
  have given : (0 < pathCount false pieces) = (said none pieces ≠ []) := by
    simp [pathCount, List.length_pos_iff]
  rw [given] at ends
  rcases ends with rfl | ⟨cause, offence⟩
  · exact .inl ⟨pieces, line, List.append_nil _⟩
  · exact .inr ⟨pieces, rest, cause, line, rfl, offence⟩

/-- Arguments are taken exactly if they split from the left to the right into pairs of a flag and
a value that it accepts and at most one argument that does not look like a flag. Then every setting
is the last value given for it, or its default, and it is the same for all orders in which pieces
about different things can be given. Otherwise the error is that of the first argument which does
not go on with such a splitting. -/
theorem command_line_read (arguments : List String) :
    ((∃ settings, ofArguments arguments = .ok settings) ↔
        ∃ pieces, Line pieces ∧ arguments = spelled pieces) ∧
      (∀ pieces, Line pieces → arguments = spelled pieces →
        ∃ settings, ofArguments arguments = .ok settings ∧ Follows pieces settings ∧
          (0 < settings.frameRate ∧ 0 < settings.holdFrames) ∧
          ∀ moved, (∀ subject, said subject moved = said subject pieces) →
            ofArguments (spelled moved) = .ok settings) ∧
      ∀ cause, ofArguments arguments = .error cause ↔
        ∃ pieces rest, Line pieces ∧ arguments = spelled pieces ++ rest ∧
          Offence (said none pieces ≠ []) rest cause := by
  refine ⟨⟨?_, ?_⟩, ?_, fun cause => ⟨?_, ?_⟩⟩
  · rintro ⟨settings, read⟩
    rcases ofArguments_cases arguments with taken | ⟨pieces, rest, cause, line, rfl, offence⟩
    · exact taken
    · rw [ofArguments_offence line offence] at read
      cases read
  · rintro ⟨pieces, line, rfl⟩
    exact ⟨_, ofArguments_line line⟩
  · rintro pieces line rfl
    have follows := followed_follows line.valid
    refine ⟨_, ofArguments_line line, follows, ⟨?_, ?_⟩, fun moved same => ?_⟩
    · exact follows.positive line.valid .fps (.inl rfl)
    · exact follows.positive line.valid .hold (.inr rfl)
    · rw [← followed_congr same]
      exact ofArguments_line (line.moved same)
  · intro refused
    rcases ofArguments_cases arguments with ⟨pieces, line, rfl⟩ | blamed
    · rw [ofArguments_line line] at refused
      cases refused
    · obtain ⟨pieces, rest, other, line, rfl, offence⟩ := blamed
      rw [ofArguments_offence line offence] at refused
      cases refused
      exact ⟨pieces, rest, line, rfl, offence⟩
  · rintro ⟨pieces, rest, line, rfl, offence⟩
    exact ofArguments_offence line offence

end Settings

end Chip8Inspector
