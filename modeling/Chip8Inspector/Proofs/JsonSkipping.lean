import Chip8Inspector.Proofs.JsonScanning

/-!
# Values that nobody reads

Skipping takes exactly the JSON values off a text, nested to any depth. What the brackets that are
open still ask of the text behind a value is `Closes`; one step of skipping hands it on, so a run
that ends has a value behind it. The other way round, a value is skipped in no more steps than it
has characters.
-/

namespace Chip8Inspector.Json

set_option autoImplicit false

/-! ## What stands at the ends of a value -/

/-- No number goes on at a comma or at the end of a bracket. -/
theorem Mark.ends {mark : Char} {text rest : List Char} (found : Mark mark text rest)
    (listed : mark ∈ [',', ']', '\x7d']) : Ends text := by
  have marks : ∀ c ∈ [',', ']', '\x7d'], c.isDigit = false ∧ c ≠ '.' ∧ c ≠ 'e' ∧ c ≠ 'E' := by
    simp
  have blanks : ∀ c ∈ [' ', '\n', '\t', '\r'], c.isDigit = false ∧ c ≠ '.' ∧ c ≠ 'e' ∧ c ≠ 'E' := by
    simp
  intro c first
  cases found with
  | none =>
      cases first
      exact marks _ listed
  | more blank =>
      cases first
      exact blanks _ blank

theorem closing_listed (bracket : Bracket) : bracket.closing ∈ [',', ']', '\x7d'] := by
  cases bracket <;> decide

theorem More.ends {bracket : Bracket} {text rest : List Char} (more : More bracket text rest) :
    Ends text := by
  cases more with
  | close closing => exact closing.ends (closing_listed bracket)
  | comma comma => exact comma.ends (by decide)

theorem Unsigned.head {text rest : List Char} (number : Unsigned text rest) :
    ∃ c behind, text = c :: behind ∧ c.isDigit = true := by
  obtain ⟨whole, _, _⟩ := number
  cases whole with
  | zero => exact ⟨_, _, rfl, rfl⟩
  | digits _ digits => exact digits.head

theorem Number.head {text rest : List Char} (number : Number text rest) :
    ∃ c behind, text = c :: behind ∧ (c.isDigit = true ∨ c = '-') := by
  cases number with
  | positive unsigned =>
      obtain ⟨c, behind, same, digit⟩ := unsigned.head
      exact ⟨c, behind, same, .inl digit⟩
  | negative => exact ⟨_, _, rfl, .inr rfl⟩

/-- A value without brackets begins with a character that is neither a blank nor a bracket. -/
structure Solid (c : Char) : Prop where
  notBlank : isBlank c = false
  notList : c ≠ '['
  notObject : c ≠ '\x7b'
  notClosing : c ≠ ']'

theorem solid_of_digit {c : Char} (digit : c.isDigit = true) : Solid c where
  notBlank := by
    have blanks : ∀ c ∈ [' ', '\n', '\t', '\r'], c.isDigit = false := by simp
    by_contra blank
    rw [Bool.not_eq_false, isBlank_iff] at blank
    rw [blanks c blank] at digit
    cases digit
  notList := by rintro rfl; cases digit
  notObject := by rintro rfl; cases digit
  notClosing := by rintro rfl; cases digit

theorem Number.solid {text rest : List Char} (number : Number text rest) :
    ∃ c behind, text = c :: behind ∧ Solid c := by
  obtain ⟨c, behind, same, digit | rfl⟩ := number.head
  · exact ⟨c, behind, same, solid_of_digit digit⟩
  · exact ⟨'-', behind, same, by decide, by decide, by decide, by decide⟩

/-- What is inside a bracket does not begin with the end of it. -/
theorem Value.notClosing {text rest : List Char} (value : Value text rest) (inner : List Char) :
    ¬ Mark ']' text inner := by
  rw [mark_iff (by decide)]
  intro closing
  cases value with
  | word listed word =>
      rw [word.skip] at closing
      simp only [List.mem_cons, List.not_mem_nil, or_false] at listed
      rcases listed with rfl | rfl | rfl <;> cases closing
  | number blanks number =>
      obtain ⟨c, behind, rfl, solid⟩ := number.solid
      rw [blanks.skip, skipBlanks_solid solid.notBlank] at closing
      cases closing
      exact solid.notClosing rfl
  | string quote =>
      rw [quote.found (by decide)] at closing
      cases closing
  | @empty bracket _ _ _ opening =>
      rw [opening.found (opening_solid _)] at closing
      cases bracket <;> cases closing
  | @filled bracket _ _ _ opening =>
      rw [opening.found (opening_solid _)] at closing
      cases bracket <;> cases closing

theorem Items.notClosing {bracket : Bracket} {text rest : List Char}
    (items : Items bracket text rest) (inner : List Char) : ¬ Mark bracket.closing text inner := by
  obtain ⟨lead, value, _⟩ := items
  cases lead with
  | list => exact value.notClosing inner
  | object quote =>
      intro closing
      have same := quote.found (by decide)
      rw [closing.found (closing_solid .object)] at same
      cases same

/-! ## Names and scalars -/

theorem skipName_sound {fuel : Nat} {text rest : List Char}
    (skipped : skipName fuel text = .ok rest) : Lead .object text rest := by
  unfold skipName at skipped
  split at skipped
  · next behind found =>
      split at skipped
      · cases skipped
      · next behindName raw =>
          split at skipped
          · next value colon =>
              cases skipped
              exact .object (mark_of_found found) (skipString_sound raw) (mark_of_found colon)
          · cases skipped
          · cases skipped
  · cases skipped
  · cases skipped

theorem skipName_complete {fuel : Nat} {text rest : List Char} (lead : Lead .object text rest)
    (enough : text.length ≤ fuel) : skipName fuel text = .ok rest := by
  cases lead with
  | object quote raw colon =>
      have behind := quote.length_lt.le.trans enough
      simp only [skipName, quote.found (by decide), skipString_complete raw behind,
        colon.found (by decide)]

theorem skipScalar_sound {fuel : Nat} {text inner rest : List Char} (blanks : Blanks text inner)
    (skipped : skipScalar fuel inner = .ok rest) : Value text rest := by
  have word {letters : List Char} (word : String) (listed : word ∈ ["null", "true", "false"])
      {c : Char} {behind : List Char} (spelled : word.toList = c :: letters)
      (blanks : Blanks text (c :: behind)) (skipped : skipWord letters behind = .ok rest) :
      Value text rest := by
    rw [skipWord_iff] at skipped
    rw [skipped] at blanks
    exact .word listed (by rwa [spelled])
  unfold skipScalar at skipped
  split at skipped
  · cases skipped
  · exact word "null" (by decide) rfl blanks skipped
  · exact word "true" (by decide) rfl blanks skipped
  · exact word "false" (by decide) rfl blanks skipped
  · exact .number blanks (.negative (skipNumber_sound skipped))
  · exact .string blanks (skipString_sound skipped)
  · split at skipped
    · exact .number blanks (.positive (skipNumber_sound skipped))
    · cases skipped

theorem skipScalar_word {word : String} (listed : word ∈ ["null", "true", "false"]) (fuel : Nat)
    (rest : List Char) : skipScalar fuel (word.toList ++ rest) = .ok rest := by
  simp only [List.mem_cons, List.not_mem_nil, or_false] at listed
  rcases listed with rfl | rfl | rfl
  · exact (skipWord_iff _ _ _).mpr rfl
  · exact (skipWord_iff _ _ _).mpr rfl
  · exact (skipWord_iff _ _ _).mpr rfl

theorem skipScalar_number {text rest : List Char} (number : Number text rest) (ends : Ends rest)
    (fuel : Nat) : skipScalar fuel text = .ok rest := by
  cases number with
  | positive unsigned =>
      obtain ⟨c, behind, rfl, digit⟩ := unsigned.head
      have skipped := skipNumber_complete unsigned ends
      unfold skipScalar
      split
      · next same => cases same
      · next same => cases same; cases digit
      · next same => cases same; cases digit
      · next same => cases same; cases digit
      · next same => cases same; cases digit
      · next same => cases same; cases digit
      · next same =>
          cases same
          rw [if_pos digit, skipped]
  | negative unsigned => exact skipNumber_complete unsigned ends

/-! ## One step of skipping -/

theorem openBracket_cases {limit : Nat} {brackets : List Bracket} {bracket : Bracket}
    {text : List Char} {next : Position}
    (opened : openBracket limit brackets bracket text = .ok next) :
    (∃ rest, Mark bracket.closing text rest ∧ next = ⟨true, brackets, rest⟩) ∨
      ∃ start, Lead bracket text start ∧ next = ⟨false, bracket :: brackets, start⟩ := by
  unfold openBracket at opened
  split at opened
  · next rest found =>
      cases opened
      exact .inl ⟨rest, mark_of_found found, rfl⟩
  · next rest found =>
      cases opened
      exact .inl ⟨rest, mark_of_found found, rfl⟩
  · cases opened
    exact .inr ⟨text, .list, rfl⟩
  · obtain ⟨start, skipped, rfl⟩ := (map_ok_iff _ _ _).mp opened
    exact .inr ⟨start, skipName_sound skipped, rfl⟩

theorem enterValue_cases {limit : Nat} {brackets : List Bracket} {text : List Char}
    {next : Position} (entered : enterValue limit brackets text = .ok next) :
    (∃ rest, Value text rest ∧ next = ⟨true, brackets, rest⟩) ∨
      ∃ bracket inner start, Mark bracket.opening text inner ∧ Lead bracket inner start ∧
        next = ⟨false, bracket :: brackets, start⟩ := by
  have bracketed (bracket : Bracket) {inner : List Char}
      (found : skipBlanks text = bracket.opening :: inner)
      (opened : openBracket limit brackets bracket inner = .ok next) :
      (∃ rest, Value text rest ∧ next = ⟨true, brackets, rest⟩) ∨
        ∃ bracket inner start, Mark bracket.opening text inner ∧ Lead bracket inner start ∧
          next = ⟨false, bracket :: brackets, start⟩ := by
    have opening := mark_of_found found
    obtain ⟨rest, closing, ended⟩ | ⟨start, lead, begun⟩ := openBracket_cases opened
    · exact .inl ⟨rest, .empty opening closing, ended⟩
    · exact .inr ⟨bracket, inner, start, opening, lead, begun⟩
  unfold enterValue at entered
  split at entered
  · next inner found => exact bracketed .list found entered
  · next inner found => exact bracketed .object found entered
  · obtain ⟨rest, skipped, rfl⟩ := (map_ok_iff _ _ _).mp entered
    exact .inl ⟨rest, skipScalar_sound (blanks_skipBlanks text) skipped, rfl⟩

theorem leaveValue_cases {limit : Nat} {outer : List Bracket} {bracket : Bracket}
    {text : List Char} {next : Position}
    (left : leaveValue limit bracket outer text = .ok next) :
    (∃ rest, Mark bracket.closing text rest ∧ next = ⟨true, outer, rest⟩) ∨
      ∃ later start, Mark ',' text later ∧ Lead bracket later start ∧
        next = ⟨false, bracket :: outer, start⟩ := by
  unfold leaveValue at left
  split at left
  · next rest found =>
      cases left
      exact .inl ⟨rest, mark_of_found found, rfl⟩
  · next rest found =>
      cases left
      exact .inl ⟨rest, mark_of_found found, rfl⟩
  · next later found =>
      cases left
      exact .inr ⟨later, later, mark_of_found found, .list, rfl⟩
  · next later found =>
      obtain ⟨start, skipped, rfl⟩ := (map_ok_iff _ _ _).mp left
      exact .inr ⟨later, start, mark_of_found found, skipName_sound skipped, rfl⟩
  · cases left
  · cases left

/-! ## Whatever is skipped is a value -/

/-- What open brackets, the innermost first, ask of the text behind a value. -/
def Closes : List Bracket → List Char → List Char → Prop
  | [], text, rest => text = rest
  | bracket :: outer, text, rest => ∃ later, More bracket text later ∧ Closes outer later rest

/-- What a text must hold at some position so that the outermost value ends before `rest`. -/
def Position.Finishes : Position → List Char → Prop
  | ⟨true, brackets, text⟩, rest => Closes brackets text rest
  | ⟨false, brackets, text⟩, rest => ∃ later, Value text later ∧ Closes brackets later rest

theorem enterValue_finishes {limit : Nat} {brackets : List Bracket} {text rest : List Char}
    {next : Position} (entered : enterValue limit brackets text = .ok next)
    (finishes : next.Finishes rest) : Position.Finishes ⟨false, brackets, text⟩ rest := by
  obtain ⟨later, value, rfl⟩ | ⟨bracket, inner, start, opening, lead, rfl⟩ :=
    enterValue_cases entered
  · exact ⟨later, value, finishes⟩
  · obtain ⟨behind, value, later, more, closes⟩ := finishes
    exact ⟨later, .filled opening (.first lead value more), closes⟩

theorem leaveValue_finishes {limit : Nat} {bracket : Bracket} {outer : List Bracket}
    {text rest : List Char} {next : Position}
    (left : leaveValue limit bracket outer text = .ok next) (finishes : next.Finishes rest) :
    Position.Finishes ⟨true, bracket :: outer, text⟩ rest := by
  obtain ⟨later, closing, rfl⟩ | ⟨behind, start, comma, lead, rfl⟩ := leaveValue_cases left
  · exact ⟨later, .close closing, finishes⟩
  · obtain ⟨behind, value, later, more, closes⟩ := finishes
    exact ⟨later, .comma comma (.first lead value more), closes⟩

theorem skipFrom_finishes {limit fuel : Nat} {position : Position} {rest : List Char}
    (skipped : skipFrom limit fuel position = .ok rest) : position.Finishes rest := by
  fun_induction skipFrom limit fuel position with
  | case1 | case3 => cases skipped
  | case2 =>
      cases skipped
      exact rfl
  | case4 fuel text bracket outer next left ih => exact leaveValue_finishes left (ih skipped)
  | case5 fuel brackets text cause refused =>
      rw [refused] at skipped
      cases skipped
  | case6 fuel brackets text next entered ih =>
      rw [entered] at skipped
      exact enterValue_finishes entered (ih skipped)

theorem skipValue_sound {fuel : Nat} {text rest : List Char}
    (skipped : skipValue fuel text = .ok rest) : Value text rest := by
  obtain ⟨later, value, rfl⟩ := skipFrom_finishes skipped
  exact value

/-! ## Whatever is a value is skipped -/

theorem openBracket_closing {brackets : List Bracket} {bracket : Bracket} {text rest : List Char}
    (closing : Mark bracket.closing text rest) (limit : Nat) :
    openBracket limit brackets bracket text = .ok ⟨true, brackets, rest⟩ := by
  have found := closing.found (closing_solid bracket)
  cases bracket with
  | list => simp only [openBracket, found, Bracket.closing]
  | object => simp only [openBracket, found, Bracket.closing]

theorem openBracket_lead {limit : Nat} {brackets : List Bracket} {bracket : Bracket}
    {text start : List Char} (lead : Lead bracket text start)
    (notClosing : ∀ rest, ¬ Mark bracket.closing text rest) (enough : text.length ≤ limit) :
    openBracket limit brackets bracket text = .ok ⟨false, bracket :: brackets, start⟩ := by
  unfold openBracket
  split
  · next rest found => exact absurd (mark_of_found found) (notClosing _)
  · next rest found =>
      exact absurd (mark_of_found found) (notClosing _)
  · cases lead
    rfl
  · rw [skipName_complete lead enough]
    rfl

theorem enterValue_opening {brackets : List Bracket} {bracket : Bracket} {text inner : List Char}
    (opening : Mark bracket.opening text inner) (limit : Nat) :
    enterValue limit brackets text = openBracket limit brackets bracket inner := by
  have found := opening.found (opening_solid bracket)
  cases bracket with
  | list => simp only [enterValue, found, Bracket.opening]
  | object => simp only [enterValue, found, Bracket.opening]

theorem enterValue_scalar {limit : Nat} {brackets : List Bracket} {c : Char}
    {text behind rest : List Char} (blanks : Blanks text (c :: behind)) (solid : Solid c)
    (skipped : skipScalar limit (c :: behind) = .ok rest) :
    enterValue limit brackets text = .ok ⟨true, brackets, rest⟩ := by
  have found := Mark.found blanks solid.notBlank
  unfold enterValue
  split
  · next same =>
      rw [found] at same
      exact absurd (List.cons.inj same).1 solid.notList
  · next same =>
      rw [found] at same
      exact absurd (List.cons.inj same).1 solid.notObject
  · rw [found, skipped]
    rfl

theorem leaveValue_closing {outer : List Bracket} {bracket : Bracket} {text rest : List Char}
    (closing : Mark bracket.closing text rest) (limit : Nat) :
    leaveValue limit bracket outer text = .ok ⟨true, outer, rest⟩ := by
  have found := closing.found (closing_solid bracket)
  cases bracket with
  | list => simp only [leaveValue, found, Bracket.closing]
  | object => simp only [leaveValue, found, Bracket.closing]

theorem leaveValue_comma {limit : Nat} {outer : List Bracket} {bracket : Bracket}
    {text later start : List Char} (comma : Mark ',' text later) (lead : Lead bracket later start)
    (enough : later.length ≤ limit) :
    leaveValue limit bracket outer text = .ok ⟨false, bracket :: outer, start⟩ := by
  have found := comma.found (by decide)
  cases bracket with
  | list =>
      cases lead
      simp only [leaveValue, found]
  | object =>
      simp only [leaveValue, found, skipName_complete lead enough]
      rfl

/-- Skipping gets from one position to another in no more steps than it takes characters. -/
def Reaches (limit : Nat) (start goal : Position) : Prop :=
  ∃ steps, steps + goal.text.length ≤ start.text.length ∧
    ∀ fuel, skipFrom limit (fuel + steps) start = skipFrom limit fuel goal

theorem Reaches.trans {limit : Nat} {start between goal : Position}
    (first : Reaches limit start between) (second : Reaches limit between goal) :
    Reaches limit start goal := by
  obtain ⟨few, fewer, reached⟩ := first
  obtain ⟨more, left, arrived⟩ := second
  refine ⟨more + few, by omega, fun fuel => ?_⟩
  rw [← Nat.add_assoc, reached, arrived]

theorem Reaches.enter {limit : Nat} {brackets : List Bracket} {text : List Char} {next : Position}
    (entered : enterValue limit brackets text = .ok next)
    (shorter : next.text.length < text.length) : Reaches limit ⟨false, brackets, text⟩ next := by
  refine ⟨1, by rwa [Nat.add_comm], fun fuel => ?_⟩
  simp only [skipFrom, entered]

theorem Reaches.leave {limit : Nat} {bracket : Bracket} {outer : List Bracket} {text : List Char}
    {next : Position} (left : leaveValue limit bracket outer text = .ok next)
    (shorter : next.text.length < text.length) :
    Reaches limit ⟨true, bracket :: outer, text⟩ next := by
  refine ⟨1, by rwa [Nat.add_comm], fun fuel => ?_⟩
  simp only [skipFrom, left]

theorem word_solid {word : String} (listed : word ∈ ["null", "true", "false"]) :
    ∃ c behind, word.toList = c :: behind ∧ Solid c := by
  simp only [List.mem_cons, List.not_mem_nil, or_false] at listed
  rcases listed with rfl | rfl | rfl
  · exact ⟨_, _, rfl, by decide, by decide, by decide, by decide⟩
  · exact ⟨_, _, rfl, by decide, by decide, by decide, by decide⟩
  · exact ⟨_, _, rfl, by decide, by decide, by decide, by decide⟩

/-! The three recur on how the grammar takes the text, which is how skipping meets it: the brackets
around a value come back unchanged behind it. -/

mutual

theorem Value.reaches {limit : Nat} {text rest : List Char} :
    Value text rest → Ends rest → text.length ≤ limit → ∀ brackets : List Bracket,
      Reaches limit ⟨false, brackets, text⟩ ⟨true, brackets, rest⟩
  | .word listed word, _, _, _ => by
      have shorter := (Value.word listed word).length_lt
      have skipped := skipScalar_word listed limit rest
      obtain ⟨c, behind, spelled, solid⟩ := word_solid listed
      rw [spelled] at word skipped
      exact .enter (enterValue_scalar word solid skipped) shorter
  | .number blanks number, ends, _, _ => by
      have shorter := (Value.number blanks number).length_lt
      have skipped := skipScalar_number number ends limit
      obtain ⟨c, behind, rfl, solid⟩ := number.solid
      exact .enter (enterValue_scalar blanks solid skipped) shorter
  | .string quote raw, _, enough, _ => by
      have behind := quote.length_lt.le.trans enough
      have solid : Solid '"' := ⟨by decide, by decide, by decide, by decide⟩
      exact .enter (enterValue_scalar quote solid (skipString_complete raw behind))
        (Value.string quote raw).length_lt
  | .empty opening closing, _, _, _ => by
      refine .enter ?_ (Value.empty opening closing).length_lt
      rw [enterValue_opening opening]
      exact openBracket_closing closing limit
  | .filled opening items, _, enough, brackets => by
      have inside := opening.length_lt
      have still := inside.le.trans enough
      -- One step goes behind the opening bracket and, in an object, behind the first name.
      obtain ⟨start, lead, reached⟩ := items.reaches still brackets
      refine .trans (.enter ?_ (lead.length_le.trans_lt inside)) reached
      rw [enterValue_opening opening]
      exact openBracket_lead lead items.notClosing still

theorem Items.reaches {limit : Nat} {bracket : Bracket} {text rest : List Char} :
    Items bracket text rest → text.length ≤ limit → ∀ outer : List Bracket,
      ∃ start, Lead bracket text start ∧
        Reaches limit ⟨false, bracket :: outer, start⟩ ⟨true, outer, rest⟩
  | .first lead value others, enough, outer => by
      have begun := lead.length_le.trans enough
      have ended := value.length_lt.le.trans begun
      exact ⟨_, lead, (value.reaches others.ends begun (bracket :: outer)).trans
        (others.reaches ended outer)⟩

theorem More.reaches {limit : Nat} {bracket : Bracket} {text rest : List Char} :
    More bracket text rest → text.length ≤ limit → ∀ outer : List Bracket,
      Reaches limit ⟨true, bracket :: outer, text⟩ ⟨true, outer, rest⟩
  | .close closing, _, _ => .leave (leaveValue_closing closing limit) closing.length_lt
  | .comma comma items, enough, outer => by
      have behind := comma.length_lt
      have still := behind.le.trans enough
      obtain ⟨start, lead, reached⟩ := items.reaches still outer
      exact (Reaches.leave (leaveValue_comma comma lead still)
        (lead.length_le.trans_lt behind)).trans reached

end

theorem skipValue_complete {fuel : Nat} {text rest : List Char} (value : Value text rest)
    (ends : Ends rest) (enough : text.length ≤ fuel) : skipValue fuel text = .ok rest := by
  obtain ⟨steps, few, reached⟩ := value.reaches ends enough []
  simp only at few
  obtain ⟨left, spare⟩ := Nat.exists_eq_add_of_le (show steps ≤ fuel by omega)
  rw [skipValue, show fuel + 1 = left + 1 + steps by omega, reached]
  simp only [skipFrom]

end Chip8Inspector.Json
