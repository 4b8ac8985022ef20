import Chip8Inspector.Proofs.JsonGrammar

/-!
# Scanners follow the grammar

Each scanner takes a text exactly if the text begins as its rule of the grammar says, and leaves the
rest that the rule names. Scanners with fuel take any text that is shorter than their fuel.
-/

namespace Chip8Inspector.Json

set_option autoImplicit false

/-- A reading in two steps gives a result exactly if both steps do. -/
theorem bind_ok_iff {ε α β : Type} (first : Except ε α) (second : α → Except ε β) (result : β) :
    (first >>= second) = .ok result ↔
      ∃ between, first = .ok between ∧ second between = .ok result := by
  cases first with
  | error cause => exact ⟨nofun, nofun⟩
  | ok between => simp [bind, Except.bind]

theorem map_ok_iff {ε α β : Type} (change : α → β) (first : Except ε α) (result : β) :
    first.map change = .ok result ↔ ∃ between, first = .ok between ∧ change between = result := by
  cases first <;> simp [Except.map]

/-- Fuel for a text leaves fuel for what is behind its first character. -/
theorem fuel_left {behind length fuel : Nat} (shorter : behind < length) (enough : length ≤ fuel) :
    ∃ left, fuel = left + 1 ∧ behind ≤ left :=
  ⟨fuel - 1, by omega, by omega⟩

/-! ## Blanks and marks -/

theorem isBlank_iff (c : Char) : isBlank c = true ↔ c ∈ [' ', '\n', '\t', '\r'] := by
  simp [isBlank, or_assoc]

theorem skipBlanks_blank {c : Char} (blank : isBlank c = true) (text : List Char) :
    skipBlanks (c :: text) = skipBlanks text :=
  List.dropWhile_cons_of_pos blank

theorem skipBlanks_solid {c : Char} (solid : isBlank c = false) (text : List Char) :
    skipBlanks (c :: text) = c :: text :=
  List.dropWhile_cons_of_neg (by simp [solid])

theorem blanks_skipBlanks (text : List Char) : Blanks text (skipBlanks text) := by
  induction text with
  | nil => exact .none
  | cons c later ih =>
      cases blank : isBlank c with
      | true =>
          rw [skipBlanks_blank blank]
          exact .more ((isBlank_iff c).mp blank) ih
      | false =>
          rw [skipBlanks_solid blank]
          exact .none

theorem Blanks.skip {text rest : List Char} (blanks : Blanks text rest) :
    skipBlanks text = skipBlanks rest := by
  induction blanks with
  | none => rfl
  | more blank _ ih => rw [skipBlanks_blank ((isBlank_iff _).mpr blank), ih]

theorem mark_of_found {mark : Char} {text rest : List Char}
    (found : skipBlanks text = mark :: rest) : Mark mark text rest := by
  rw [Mark, ← found]
  exact blanks_skipBlanks text

/-- A mark is what skipping blanks comes upon. -/
theorem Mark.found {mark : Char} {text rest : List Char} (marked : Mark mark text rest)
    (solid : isBlank mark = false) : skipBlanks text = mark :: rest := by
  rw [Blanks.skip marked, skipBlanks_solid solid]

theorem mark_iff {mark : Char} (solid : isBlank mark = false) (text rest : List Char) :
    Mark mark text rest ↔ skipBlanks text = mark :: rest :=
  ⟨fun marked => marked.found solid, mark_of_found⟩

theorem blanks_nil_iff (text : List Char) : Blanks text [] ↔ skipBlanks text = [] := by
  constructor
  · intro blanks
    exact blanks.skip
  · intro skipped
    rw [← skipped]
    exact blanks_skipBlanks text

theorem opening_solid (bracket : Bracket) : isBlank bracket.opening = false := by
  cases bracket <;> rfl

theorem closing_solid (bracket : Bracket) : isBlank bracket.closing = false := by
  cases bracket <;> rfl

theorem skipWord_iff (word text rest : List Char) :
    skipWord word text = .ok rest ↔ text = word ++ rest := by
  induction word generalizing text with
  | nil => simp [skipWord]
  | cons expected word ih =>
      cases text with
      | nil => simp [skipWord]
      | cons c text =>
          rw [skipWord]
          split
          · next same => simp [ih, same]
          · next other => simp [other]

/-! ## Strings -/

theorem eq_ofNat {c : Char} {start value : Nat} (number : c.toNat = start + value) :
    c = Char.ofNat (start + value) := by
  rw [← number, Char.ofNat_toNat]

theorem hexValue_iff (c : Char) (value : Nat) : hexValue? c = some value ↔ HexDigit c value := by
  have decimals : ∀ value < 10, Char.ofNat (48 + value) = value.digitChar := by decide
  have letters : ∀ value < 16, 10 ≤ value →
      Char.ofNat (87 + value) = value.digitChar ∧
        Char.ofNat (55 + value) = value.digitChar.toUpper := by decide
  have values : ∀ value < 16, hexValue? value.digitChar = some value ∧
      hexValue? value.digitChar.toUpper = some value := by decide
  constructor
  · intro read
    unfold hexValue? at read
    simp only [Char.le_def, UInt32.le_iff_toNat_le, Char.toNat_val, Char.reduceToNat] at read
    split at read
    · next range =>
        cases read
        have below : c.toNat - 48 < 10 := by omega
        refine ⟨by omega, .inl ?_⟩
        rw [← decimals _ below]
        exact eq_ofNat (by omega)
    · split at read
      · next range =>
          cases read
          have below : c.toNat - 97 + 10 < 16 := by omega
          refine ⟨below, .inl ?_⟩
          rw [← (letters _ below (by omega)).1]
          exact eq_ofNat (by omega)
      · split at read
        · next range =>
            cases read
            have below : c.toNat - 65 + 10 < 16 := by omega
            refine ⟨below, .inr ?_⟩
            rw [← (letters _ below (by omega)).2]
            exact eq_ofNat (by omega)
        · cases read
  · rintro ⟨below, rfl | rfl⟩
    · exact (values value below).1
    · exact (values value below).2

theorem hexValues_iff (a b c d : Char) (unit : Nat) :
    hexValues? a b c d = some unit ↔
      ∃ w x y z, HexDigit a w ∧ HexDigit b x ∧ HexDigit c y ∧ HexDigit d z ∧
        4096 * w + 256 * x + 16 * y + z = unit := by
  have sum (w x y z : Nat) :
      256 * (16 * w + x) + (16 * y + z) = 4096 * w + 256 * x + 16 * y + z := by omega
  simp only [hexValues?, Option.bind_eq_bind, Option.bind_eq_some_iff, Option.pure_def,
    Option.some.injEq, hexValue_iff, sum]
  constructor
  · rintro ⟨w, first, x, second, y, third, z, fourth, number⟩
    exact ⟨w, x, y, z, first, second, third, fourth, number⟩
  · rintro ⟨w, x, y, z, first, second, third, fourth, number⟩
    exact ⟨w, first, x, second, y, third, z, fourth, number⟩

theorem scanHex_iff (text : List Char) (unit : Nat) (rest : List Char) :
    scanHex text = .ok (unit, rest) ↔ CodeUnit text unit rest := by
  unfold scanHex
  split
  · next a b c d behind =>
      cases read : hexValues? a b c d with
      | none =>
          refine ⟨nofun, fun found => ?_⟩
          cases found with
          | digits first second third fourth =>
              have some_unit := (hexValues_iff a b c d _).mpr
                ⟨_, _, _, _, first, second, third, fourth, rfl⟩
              rw [read] at some_unit
              cases some_unit
      | some value =>
          constructor
          · intro same
            cases same
            obtain ⟨w, x, y, z, first, second, third, fourth, rfl⟩ :=
              (hexValues_iff a b c d _).mp read
            exact .digits first second third fourth
          · intro found
            cases found with
            | digits first second third fourth =>
                have some_unit := (hexValues_iff a b c d _).mpr
                  ⟨_, _, _, _, first, second, third, fourth, rfl⟩
                rw [read] at some_unit
                cases some_unit
                rfl
  · next short =>
      constructor
      · intro scanned
        split at scanned <;> cases scanned
      · intro found
        cases found with
        | digits => exact absurd rfl (short _ _ _ _ _)

theorem CodeUnit.bound {text rest : List Char} {unit : Nat} (found : CodeUnit text unit rest) :
    unit < 0x10000 := by
  cases found with
  | digits first second third fourth =>
      have := first.1
      have := second.1
      have := third.1
      have := fourth.1
      omega

theorem toNat_ofNat {value : Nat} (valid : value.isValidChar) :
    (Char.ofNat value).toNat = value := by
  rw [Char.ofNat, dif_pos valid]
  rfl

theorem simpleEscape_iff (letter c : Char) :
    simpleEscape? letter = some c ↔ (letter, c) ∈ letterEscapes := by
  unfold simpleEscape?
  split <;> simp_all [letterEscapes, eq_comm]

/-- Two surrogates stand for the character that has their number, for no number that they make is
one of a surrogate or above those of all characters. -/
theorem pairedUnits_eq_iff {high low : Nat} (highRange : 0xd800 ≤ high ∧ high ≤ 0xdbff)
    (lowRange : 0xdc00 ≤ low ∧ low ≤ 0xdfff) (c : Char) :
    pairedUnits high low = c ↔
      c.toNat = 0x10000 + 0x400 * (high - 0xd800) + (low - 0xdc00) := by
  have valid : (0x10000 + 0x400 * (high - 0xd800) + (low - 0xdc00)).isValidChar := by
    unfold Nat.isValidChar
    omega
  rw [← toNat_ofNat valid, Char.toNat_inj, pairedUnits, eq_comm]

theorem scanLowSurrogate_iff (high : Nat) (text : List Char) (c : Char) (rest : List Char) :
    scanLowSurrogate high text = .ok (c, rest) ↔
      ∃ between low, text = '\\' :: 'u' :: between ∧ CodeUnit between low rest ∧
        (0xdc00 ≤ low ∧ low ≤ 0xdfff) ∧ pairedUnits high low = c := by
  unfold scanLowSurrogate
  split
  · simp
  · simp
  · next between =>
      simp only [bind_ok_iff, Prod.exists, scanHex_iff, isLowSurrogate, Bool.and_eq_true,
        decide_eq_true_eq]
      constructor
      · rintro ⟨low, later, unit, scanned⟩
        split at scanned
        · next range =>
            rw [Except.ok.injEq, Prod.mk.injEq] at scanned
            obtain ⟨meant, rfl⟩ := scanned
            exact ⟨between, low, rfl, unit, range, meant⟩
        · cases scanned
      · rintro ⟨between, low, same, unit, range, rfl⟩
        cases same
        exact ⟨low, rest, unit, if_pos range⟩
  · next other =>
      refine ⟨nofun, ?_⟩
      rintro ⟨between, low, same, -⟩
      exact absurd same (other between)

/-- A character's own number is no surrogate. -/
theorem toNat_not_surrogate (c : Char) : c.toNat < 0xd800 ∨ 0xdfff < c.toNat := by
  have valid : c.toNat.isValidChar := c.valid
  unfold Nat.isValidChar at valid
  omega

theorem scanUnicode_iff (text : List Char) (c : Char) (rest : List Char) :
    scanUnicode text = .ok (c, rest) ↔ Spelling ('\\' :: 'u' :: text) c rest := by
  simp only [scanUnicode, bind_ok_iff, Prod.exists, scanHex_iff, isHighSurrogate, isLowSurrogate,
    Bool.and_eq_true, decide_eq_true_eq]
  constructor
  · rintro ⟨unit, later, first, scanned⟩
    split at scanned
    · next high =>
        obtain ⟨between, low, rfl, second, range, meant⟩ :=
          (scanLowSurrogate_iff _ _ _ _).mp scanned
        exact .pair first second high range ((pairedUnits_eq_iff high range c).mp meant)
    · split at scanned
      · cases scanned
      · next notHigh notLow =>
          cases scanned
          have valid : unit.isValidChar := by
            have := first.bound
            unfold Nat.isValidChar
            omega
          exact .unit (by rwa [toNat_ofNat valid])
  · intro spelling
    cases spelling with
    | plain plain => exact absurd rfl plain.2.1
    | letter listed => exact absurd listed (by simp [letterEscapes])
    | unit unit =>
        have := toNat_not_surrogate c
        refine ⟨c.toNat, rest, unit, ?_⟩
        rw [if_neg (by omega), if_neg (by omega), Char.ofNat_toNat]
    | pair first second high range meant =>
        refine ⟨_, _, first, ?_⟩
        rw [if_pos high]
        exact (scanLowSurrogate_iff _ _ _ _).mpr
          ⟨_, _, rfl, second, range, (pairedUnits_eq_iff high range c).mpr meant⟩

theorem scanEscape_iff (text : List Char) (c : Char) (rest : List Char) :
    scanEscape text = .ok (c, rest) ↔ Spelling ('\\' :: text) c rest := by
  unfold scanEscape
  split
  · refine ⟨nofun, fun spelling => ?_⟩
    cases spelling with
    | plain plain => exact absurd rfl plain.2.1
  · exact scanUnicode_iff _ c rest
  · next letter behind other =>
      constructor
      · intro scanned
        split at scanned
        · cases scanned
        · next meant simple =>
            cases scanned
            exact .letter ((simpleEscape_iff _ _).mp simple)
      · intro spelling
        cases spelling with
        | plain plain => exact absurd rfl plain.2.1
        | letter listed => rw [(simpleEscape_iff _ _).mpr listed]
        | unit => exact (other rfl).elim
        | pair => exact (other rfl).elim

/-- One step of a scan takes any spelling of a character. -/
theorem scanStringBehind_spelling {text later : List Char} {c : Char}
    (spelling : Spelling text c later) (reversed : List Char) (fuel : Nat) :
    scanStringBehind reversed (fuel + 1) text = scanStringBehind (c :: reversed) fuel later := by
  have escaped {behind : List Char} (spelling : Spelling ('\\' :: behind) c later) :
      scanStringBehind reversed (fuel + 1) ('\\' :: behind) =
        scanStringBehind (c :: reversed) fuel later := by
    simp only [scanStringBehind, (scanEscape_iff _ _ _).mpr spelling]
  cases spelling with
  | plain plain =>
      obtain ⟨noQuote, noBackslash, printable⟩ := plain
      rw [scanStringBehind.eq_5 _ _ _ _ noQuote noBackslash, if_neg (Nat.not_lt.mpr printable)]
  | letter listed => exact escaped (.letter listed)
  | unit unit => exact escaped (.unit unit)
  | pair first second high low meant => exact escaped (.pair first second high low meant)

theorem scanStringBehind_sound {reversed text : List Char} {fuel : Nat} {meant : String}
    {rest : List Char} (scanned : scanStringBehind reversed fuel text = .ok (meant, rest)) :
    ∃ inner, Spellings text inner rest ∧ meant.toList = reversed.reverse ++ inner := by
  fun_induction scanStringBehind reversed fuel text with
  | case1 | case2 | case4 | case6 => cases scanned
  | case3 =>
      cases scanned
      exact ⟨[], .close, by simp⟩
  | case5 reversed fuel behind c later escape ih =>
      obtain ⟨inner, others, same⟩ := ih scanned
      exact ⟨c :: inner, .more ((scanEscape_iff _ _ _).mp escape) others, by simp [same]⟩
  | case7 reversed fuel c behind noQuote noBackslash printable ih =>
      obtain ⟨inner, others, same⟩ := ih scanned
      exact ⟨c :: inner, .more (.plain ⟨noQuote, noBackslash, Nat.not_lt.mp printable⟩) others,
        by simp [same]⟩

theorem scanStringBehind_complete {text inner rest : List Char}
    (spellings : Spellings text inner rest) (reversed : List Char) {fuel : Nat}
    (enough : text.length ≤ fuel) :
    scanStringBehind reversed fuel text = .ok (.ofList (reversed.reverse ++ inner), rest) := by
  induction spellings generalizing reversed fuel with
  | close =>
      obtain ⟨left, rfl, -⟩ := fuel_left (Nat.lt_succ_self _) enough
      simp [scanStringBehind]
  | more first others ih =>
      obtain ⟨left, rfl, still⟩ := fuel_left first.length_lt enough
      rw [scanStringBehind_spelling first, ih _ still]
      simp

theorem scanString_iff {fuel : Nat} {text : List Char} (enough : text.length ≤ fuel)
    (meant : String) (rest : List Char) :
    scanString fuel text = .ok (meant, rest) ↔ Spellings text meant.toList rest := by
  constructor
  · intro scanned
    obtain ⟨inner, spellings, same⟩ := scanStringBehind_sound scanned
    rw [same]
    exact spellings
  · intro spellings
    have scanned := scanStringBehind_complete spellings [] enough
    rwa [List.reverse_nil, List.nil_append, String.ofList_toList] at scanned

/-! ## Strings without a meaning -/

theorem skipEscape_iff (text rest : List Char) :
    skipEscape text = .ok rest ↔
      (∃ letter c, text = letter :: rest ∧ (letter, c) ∈ letterEscapes) ∨
        ∃ behind unit, text = 'u' :: behind ∧ CodeUnit behind unit rest := by
  have noLetter (c : Char) : ('u', c) ∉ letterEscapes := by simp [letterEscapes]
  unfold skipEscape
  split
  · simp
  · next behind =>
      simp only [map_ok_iff, Prod.exists, scanHex_iff, List.cons.injEq]
      constructor
      · rintro ⟨unit, _, found, rfl⟩
        exact .inr ⟨behind, unit, ⟨trivial, rfl⟩, found⟩
      · rintro (⟨_, c, ⟨rfl, -⟩, listed⟩ | ⟨_, unit, ⟨-, rfl⟩, found⟩)
        · exact absurd listed (noLetter c)
        · exact ⟨unit, rest, found, rfl⟩
  · next letter behind other =>
      constructor
      · intro skipped
        split at skipped
        · next simple =>
            cases skipped
            obtain ⟨c, meant⟩ := Option.isSome_iff_exists.mp simple
            exact .inl ⟨letter, c, rfl, (simpleEscape_iff _ _).mp meant⟩
        · cases skipped
      · rintro (⟨_, c, same, listed⟩ | ⟨_, unit, same, -⟩)
        · cases same
          rw [if_pos (by rw [(simpleEscape_iff _ _).mpr listed]; rfl)]
        · cases same
          exact (other rfl).elim

theorem skipString_sound {fuel : Nat} {text rest : List Char}
    (skipped : skipString fuel text = .ok rest) : Raw text rest := by
  fun_induction skipString fuel text with
  | case1 | case2 | case4 | case6 => cases skipped
  | case3 =>
      cases skipped
      exact .close
  | case5 fuel behind later escape ih =>
      obtain ⟨letter, c, rfl, listed⟩ | ⟨behind, unit, rfl, found⟩ :=
        (skipEscape_iff _ _).mp escape
      · exact .letter listed (ih skipped)
      · exact .unit found (ih skipped)
  | case7 fuel c behind noQuote noBackslash printable ih =>
      exact .plain ⟨noQuote, noBackslash, Nat.not_lt.mp printable⟩ (ih skipped)

theorem skipString_complete {text rest : List Char} (raw : Raw text rest) {fuel : Nat}
    (enough : text.length ≤ fuel) : skipString fuel text = .ok rest := by
  induction raw generalizing fuel with
  | close =>
      obtain ⟨left, rfl, -⟩ := fuel_left (Nat.lt_succ_self _) enough
      simp only [skipString]
  | plain plain _ ih =>
      obtain ⟨noQuote, noBackslash, printable⟩ := plain
      obtain ⟨left, rfl, still⟩ := fuel_left (Nat.lt_succ_self _) enough
      rw [skipString.eq_5 _ _ _ noQuote noBackslash, if_neg (Nat.not_lt.mpr printable), ih still]
  | letter listed _ ih =>
      obtain ⟨left, rfl, still⟩ := fuel_left (Nat.lt_succ_of_lt (Nat.lt_succ_self _)) enough
      simp only [skipString, (skipEscape_iff _ _).mpr (.inl ⟨_, _, rfl, listed⟩), ih still]
  | unit unit _ ih =>
      obtain ⟨left, rfl, still⟩ :=
        fuel_left (Nat.lt_succ_of_lt (Nat.lt_succ_of_lt unit.length_lt)) enough
      simp only [skipString, (skipEscape_iff _ _).mpr (.inr ⟨_, _, rfl, unit⟩), ih still]

/-! ## Numbers

A number is read for as long as it may go on, so what the grammar allows is read in full only if
what follows it does not look like more of it.
-/

/-- A text with which no number goes on. -/
def Ends (text : List Char) : Prop :=
  ∀ c ∈ text.head?, c.isDigit = false ∧ c ≠ '.' ∧ c ≠ 'e' ∧ c ≠ 'E'

theorem Ends.noDigit {text : List Char} (ends : Ends text) : startsWithDigit text = false := by
  cases text with
  | nil => rfl
  | cons c text => exact (ends c rfl).1

theorem digits_skipDigits {c : Char} (digit : c.isDigit = true) (text : List Char) :
    Digits (c :: text) (skipDigits text) := by
  induction text generalizing c with
  | nil => exact .last digit
  | cons next text ih =>
      cases another : next.isDigit with
      | true =>
          rw [skipDigits, List.dropWhile_cons_of_pos another]
          exact .more digit (ih another)
      | false =>
          rw [skipDigits, List.dropWhile_cons_of_neg (by simp [another])]
          exact .last digit

theorem Digits.skip {text rest : List Char} (digits : Digits text rest)
    (stop : startsWithDigit rest = false) : skipDigits text = rest := by
  induction digits with
  | @last c rest digit =>
      rw [skipDigits, List.dropWhile_cons_of_pos digit]
      cases rest with
      | nil => rfl
      | cons next rest => exact List.dropWhile_cons_of_neg (by simpa [startsWithDigit] using stop)
  | more digit _ ih =>
      rw [skipDigits, List.dropWhile_cons_of_pos digit]
      exact ih stop

theorem skipSomeDigits_sound {text rest : List Char} (skipped : skipSomeDigits text = .ok rest) :
    Digits text rest := by
  unfold skipSomeDigits at skipped
  split at skipped
  · next c behind =>
      split at skipped
      · next digit =>
          cases skipped
          exact digits_skipDigits digit behind
      · cases skipped
  · cases skipped

theorem Digits.head {text rest : List Char} (digits : Digits text rest) :
    ∃ c behind, text = c :: behind ∧ c.isDigit = true := by
  cases digits with
  | last digit => exact ⟨_, _, rfl, digit⟩
  | more digit => exact ⟨_, _, rfl, digit⟩

theorem skipSomeDigits_complete {text rest : List Char} (digits : Digits text rest)
    (stop : startsWithDigit rest = false) : skipSomeDigits text = .ok rest := by
  obtain ⟨c, behind, rfl, digit⟩ := digits.head
  have skipped := digits.skip stop
  rw [skipDigits, List.dropWhile_cons_of_pos digit] at skipped
  rw [skipSomeDigits, if_pos digit, skipDigits, skipped]

theorem sign_skipSign (text : List Char) : Sign text (skipSign text) := by
  unfold skipSign
  split
  · exact .plus
  · exact .minus
  · exact .none

theorem Sign.skip {text unsigned rest : List Char} (sign : Sign text unsigned)
    (digits : Digits unsigned rest) : skipSign text = unsigned := by
  cases sign with
  | none =>
      obtain ⟨c, behind, rfl, digit⟩ := digits.head
      unfold skipSign
      split
      · next same =>
          cases same
          cases digit
      · next same =>
          cases same
          cases digit
      · rfl
  | plus => rfl
  | minus => rfl

theorem skipExponent_sound {text rest : List Char} (skipped : skipExponent text = .ok rest) :
    Exponent text rest := by
  unfold skipExponent at skipped
  split at skipped
  · exact .some (.inl rfl) (sign_skipSign _) (skipSomeDigits_sound skipped)
  · exact .some (.inr rfl) (sign_skipSign _) (skipSomeDigits_sound skipped)
  · cases skipped
    exact .none

theorem skipExponent_complete {text rest : List Char} (exponent : Exponent text rest)
    (ends : Ends rest) : skipExponent text = .ok rest := by
  cases exponent with
  | none =>
      unfold skipExponent
      split
      · exact absurd rfl (ends _ rfl).2.2.1
      · exact absurd rfl (ends _ rfl).2.2.2
      · rfl
  | some letter sign digits =>
      have skipped := skipSomeDigits_complete digits ends.noDigit
      rw [← sign.skip digits] at skipped
      rcases letter with rfl | rfl
      · exact skipped
      · exact skipped

/-- An exponent begins neither with a digit nor with a point. -/
theorem Exponent.head {text rest : List Char} (exponent : Exponent text rest) (ends : Ends rest) :
    ∀ c ∈ text.head?, c.isDigit = false ∧ c ≠ '.' := by
  intro c first
  cases exponent with
  | none => exact ⟨(ends c first).1, (ends c first).2.1⟩
  | some letter =>
      cases first
      rcases letter with rfl | rfl
      · decide
      · decide

theorem skipFraction_sound {text rest : List Char} (skipped : skipFraction text = .ok rest) :
    ∃ between, Fraction text between ∧ Exponent between rest := by
  unfold skipFraction at skipped
  split at skipped
  · obtain ⟨between, digits, exponent⟩ := (bind_ok_iff _ _ _).mp skipped
    exact ⟨between, .some (skipSomeDigits_sound digits), skipExponent_sound exponent⟩
  · exact ⟨_, .none, skipExponent_sound skipped⟩

theorem skipFraction_complete {text between rest : List Char} (fraction : Fraction text between)
    (exponent : Exponent between rest) (ends : Ends rest) : skipFraction text = .ok rest := by
  have head := exponent.head ends
  cases fraction with
  | none =>
      unfold skipFraction
      split
      · exact absurd rfl (head _ rfl).2
      · exact skipExponent_complete exponent ends
  | some digits =>
      have stop : startsWithDigit between = false := by
        cases between with
        | nil => rfl
        | cons c behind => exact (head c rfl).1
      exact (bind_ok_iff _ _ _).mpr
        ⟨between, skipSomeDigits_complete digits stop, skipExponent_complete exponent ends⟩

theorem Fraction.noDigit {text between rest : List Char} (fraction : Fraction text between)
    (exponent : Exponent between rest) (ends : Ends rest) : startsWithDigit text = false := by
  cases fraction with
  | none =>
      cases text with
      | nil => rfl
      | cons c behind => exact (exponent.head ends c rfl).1
  | some => rfl

theorem skipNumber_sound {text rest : List Char} (skipped : skipNumber text = .ok rest) :
    Unsigned text rest := by
  unfold skipNumber at skipped
  split at skipped
  · split at skipped
    · cases skipped
    · obtain ⟨between, fraction, exponent⟩ := skipFraction_sound skipped
      exact .parts .zero fraction exponent
  · next c behind nonzero =>
      split at skipped
      · next digit =>
          obtain ⟨between, fraction, exponent⟩ := skipFraction_sound skipped
          exact .parts (.digits nonzero (digits_skipDigits digit behind)) fraction exponent
      · cases skipped
  · cases skipped

theorem skipNumber_complete {text rest : List Char} (number : Unsigned text rest)
    (ends : Ends rest) : skipNumber text = .ok rest := by
  obtain ⟨whole, fraction, exponent⟩ := number
  have stop := fraction.noDigit exponent ends
  have skipped := skipFraction_complete fraction exponent ends
  cases whole with
  | zero => rw [skipNumber, if_neg (by simp [stop]), skipped]
  | digits nonzero digits =>
      obtain ⟨_, _, same, digit⟩ := digits.head
      cases same
      have all := digits.skip stop
      rw [skipDigits, List.dropWhile_cons_of_pos digit] at all
      rw [skipNumber.eq_2 _ _ nonzero, if_pos digit, skipDigits, all, skipped]

end Chip8Inspector.Json
