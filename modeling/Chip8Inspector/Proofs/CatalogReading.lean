import Chip8Inspector.Catalog.Basic
import Chip8Inspector.Proofs.JsonSkipping

/-!
# A catalog is read exactly from the texts that list it

Reading a catalog accepts every text that writes a list of entries and no other, and gives the
entries that the text writes. A catalog without entries is refused as such, and so is no other text.
-/

namespace Chip8Inspector.Json

set_option autoImplicit false

/-! ## Fields -/

/-- A refusal is an error, whatever is found. -/
theorem refuse_ne_ok {α : Type} (fuel : Nat) (expected : Expected) (text : List Char) (result : α) :
    refuse fuel expected text ≠ .ok result := by
  have always (found : Except JsonError Found) :
      (found >>= fun found => .error (.mismatch (.wrongType found expected))) ≠ .ok result := by
    intro refused
    obtain ⟨_, _, impossible⟩ := (bind_ok_iff _ _ _).mp refused
    cases impossible
  unfold refuse
  split
  case h_8 => split <;> exact always _
  all_goals exact always _

theorem quoted_iff {text inner : List Char} (quote : Mark '"' text inner) (meant : String)
    (rest : List Char) : Quoted text meant rest ↔ Spellings inner meant.toList rest := by
  constructor
  · rintro ⟨other, same, spellings⟩
    rw [mark_iff (by decide)] at quote same
    rw [quote] at same
    cases same
    exact spellings
  · intro spellings
    exact ⟨inner, quote, spellings⟩

theorem readField_iff {fuel : Nat} {text : List Char} (enough : text.length ≤ fuel)
    (meant : String) (rest : List Char) :
    readField fuel text = .ok (meant, rest) ↔ Quoted text meant rest := by
  unfold readField
  split
  · next found =>
      refine ⟨nofun, ?_⟩
      rintro ⟨inner, quote, -⟩
      rw [mark_iff (by decide), found] at quote
      cases quote
  · next inner found =>
      have quote := mark_of_found found
      rw [scanString_iff (quote.length_lt.le.trans enough), quoted_iff quote]
  · next other =>
      refine ⟨fun read => absurd read (refuse_ne_ok _ _ _ _), ?_⟩
      rintro ⟨inner, quote, -⟩
      exact absurd (quote.found (by decide)) (other inner)

theorem skipColon_iff (text rest : List Char) : skipColon text = .ok rest ↔ Mark ':' text rest := by
  rw [mark_iff (by decide)]
  unfold skipColon
  split
  · next found => simp [found]
  · next found => simp [found]
  · next other _ =>
      refine ⟨nofun, fun found => ?_⟩
      exact absurd found (other rest)

/-! ## Entries as lists -/

theorem readPair_sound {fuel : Nat} {text rest : List Char} {entry : Entry}
    (enough : text.length ≤ fuel) (read : readPair fuel text = .ok (entry, rest)) :
    ∃ behindTitle second behindFile, Quoted text entry.title behindTitle ∧
      Mark ',' behindTitle second ∧ Quoted second entry.file behindFile ∧
        Mark ']' behindFile rest := by
  unfold readPair at read
  split at read
  · cases read
  · cases read
  · obtain ⟨⟨title, behindTitle⟩, titled, read⟩ := (bind_ok_iff _ _ _).mp read
    rw [readField_iff enough] at titled
    dsimp only at read
    split at read
    · cases read
    · cases read
    · next second comma =>
        have comma := mark_of_found comma
        have shorter := comma.length_lt.trans titled.length_lt
        split at read
        · cases read
        · cases read
        · obtain ⟨⟨file, behindFile⟩, filed, read⟩ := (bind_ok_iff _ _ _).mp read
          rw [readField_iff (shorter.le.trans enough)] at filed
          dsimp only at read
          split at read
          · cases read
          · next closing =>
              cases read
              exact ⟨behindTitle, second, behindFile, titled, comma, filed, mark_of_found closing⟩
          · cases read
    · cases read

theorem readPair_complete {fuel : Nat} {text behindTitle second behindFile rest : List Char}
    {title file : String} (enough : text.length ≤ fuel) (titled : Quoted text title behindTitle)
    (comma : Mark ',' behindTitle second) (filed : Quoted second file behindFile)
    (closing : Mark ']' behindFile rest) : readPair fuel text = .ok (⟨title, file⟩, rest) := by
  have shorter := comma.length_lt.trans titled.length_lt
  have readTitle := (readField_iff enough _ _).mpr titled
  have readFile := (readField_iff (shorter.le.trans enough) _ _).mpr filed
  obtain ⟨_, quote, -⟩ := titled
  obtain ⟨_, secondQuote, -⟩ := filed
  rw [mark_iff (by decide)] at quote comma secondQuote closing
  simp only [readPair, quote, readTitle, comma, secondQuote, readFile, closing, bind, Except.bind]
  rfl

/-! ## Entries as objects -/

/-- What an entry has in a field. -/
def fieldOf (entry : Entry) : Field → String
  | .title => entry.title
  | .file => entry.file

def Fields.get (fields : Fields) : Field → Option String
  | .title => fields.title
  | .file => fields.file

/-- The fields after another member was read. -/
def Fields.take (fields : Fields) : Member → Fields
  | .known .title value => { fields with title := some value }
  | .known .file value => { fields with file := some value }
  | .other => fields

/-- All values of a field: the one that was read, and those that further members give. -/
def Fields.values (fields : Fields) (members : List Member) (field : Field) : List String :=
  (fields.get field).toList ++ members.filterMap (Member.valueOf field)

/-- A member is taken as long as its field was not read before. -/
def Fields.Free (fields : Fields) : Member → Prop
  | .known field _ => fields.get field = none
  | .other => True

theorem Fields.values_take {fields : Fields} {member : Member} (free : fields.Free member)
    (members : List Member) (field : Field) :
    (fields.take member).values members field = fields.values (member :: members) field := by
  cases member with
  | other => rw [Fields.values, Fields.values, List.filterMap_cons_none rfl, Fields.take]
  | known given value =>
      cases given <;> cases field <;>
        simp_all [Fields.values, Fields.take, Fields.get, Fields.Free, Member.valueOf]

/-- If a field is to have a single value, the next member that gives one comes upon none. -/
theorem Fields.free_of_values {fields : Fields} {member : Member} {members : List Member}
    {entry : Entry}
    (single : ∀ field, fields.values (member :: members) field = [fieldOf entry field]) :
    fields.Free member := by
  cases member with
  | other => trivial
  | known field value =>
      have alone := single field
      cases read : fields.get field with
      | none => exact read
      | some earlier => simp [Fields.values, read, Member.valueOf] at alone

theorem Fields.entry_iff (fields : Fields) (entry : Entry) :
    fields.entry = .ok entry ↔ ∀ field, fields.values [] field = [fieldOf entry field] := by
  obtain ⟨title, file⟩ := fields
  constructor
  · intro read field
    cases title with
    | none => cases read
    | some title =>
        cases file with
        | none => cases read
        | some file =>
            cases read
            cases field <;> rfl
  · intro single
    have titled := single .title
    have filed := single .file
    cases title with
    | none => cases titled
    | some title =>
        cases file with
        | none => cases filed
        | some file =>
            cases titled
            cases filed
            rfl

/-- A series has a first item. -/
theorem Series.begins {α : Type} {One : List Char → α → List Char → Prop} {closing : Char}
    {text rest : List Char} {items : List α} (series : Series One closing text items rest) :
    ∃ item behind, One text item behind := by
  cases series with
  | last one => exact ⟨_, _, one⟩
  | more one => exact ⟨_, _, one⟩

theorem MemberText.quote {text rest : List Char} {member : Member}
    (found : MemberText text member rest) : ∃ inner, Mark '"' text inner := by
  cases found with
  | known named =>
      obtain ⟨inner, quote, -⟩ := named
      exact ⟨inner, quote⟩
  | other named =>
      obtain ⟨inner, quote, -⟩ := named
      exact ⟨inner, quote⟩

theorem MemberText.length_lt {text rest : List Char} {member : Member}
    (found : MemberText text member rest) : rest.length < text.length := by
  cases found with
  | known named colon valued =>
      exact valued.length_lt.trans (colon.length_lt.trans named.length_lt)
  | other named _ colon valued =>
      exact valued.length_lt.trans (colon.length_lt.trans named.length_lt)

/-- Both fields are read alike. -/
theorem readMember_known (fuel : Nat) (fields : Fields) (field : Field) (text : List Char) :
    readMember fuel fields field.name text =
      if (fields.get field).isSome then .error (.mismatch (.duplicateField field))
      else skipColon text >>= fun inner => readField fuel inner >>= fun read =>
        .ok (fields.take (.known field read.1), read.2) := by
  cases field with
  | title => rfl
  | file => rfl

theorem readMember_other {name : String} (unknown : ∀ field : Field, name ≠ field.name) (fuel : Nat)
    (fields : Fields) (text : List Char) :
    readMember fuel fields name text =
      skipColon text >>= fun inner => skipValue fuel inner >>= fun rest => .ok (fields, rest) := by
  rw [readMember, if_neg (unknown .title), if_neg (unknown .file)]

theorem readMember_sound {fuel : Nat} {fields after : Fields} {name : String}
    {whole text rest : List Char} (named : Quoted whole name text) (enough : text.length ≤ fuel)
    (read : readMember fuel fields name text = .ok (after, rest)) :
    ∃ member, MemberText whole member rest ∧ fields.Free member ∧ after = fields.take member := by
  by_cases known : ∃ field : Field, name = field.name
  · obtain ⟨field, rfl⟩ := known
    rw [readMember_known] at read
    split at read
    · cases read
    · next unread =>
        obtain ⟨inner, colon, read⟩ := (bind_ok_iff _ _ _).mp read
        obtain ⟨⟨value, behind⟩, valued, read⟩ := (bind_ok_iff _ _ _).mp read
        rw [skipColon_iff] at colon
        rw [readField_iff (colon.length_lt.le.trans enough)] at valued
        cases read
        exact ⟨.known field value, .known named colon valued,
          Option.not_isSome_iff_eq_none.mp unread, rfl⟩
  · have unknown := not_exists.mp known
    rw [readMember_other unknown] at read
    obtain ⟨inner, colon, read⟩ := (bind_ok_iff _ _ _).mp read
    obtain ⟨behind, skipped, read⟩ := (bind_ok_iff _ _ _).mp read
    cases read
    exact ⟨.other, .other named unknown ((skipColon_iff _ _).mp colon) (skipValue_sound skipped),
      trivial, rfl⟩

theorem readMember_complete {limit : Nat} {fields : Fields} {member : Member}
    {whole text rest : List Char} (found : MemberText whole member rest) (ends : Ends rest)
    (free : fields.Free member) (quote : Mark '"' whole text) (enough : text.length ≤ limit) :
    ∃ name behindName, scanString limit text = .ok (name, behindName) ∧
      readMember limit fields name behindName = .ok (fields.take member, rest) := by
  cases found with
  | @known field value _ behindName inner _ named colon valued =>
      rw [quoted_iff quote] at named
      have behind := named.length_lt.le.trans enough
      have later := colon.length_lt.le.trans behind
      refine ⟨field.name, behindName, (scanString_iff enough _ _).mpr named, ?_⟩
      rw [readMember_known, if_neg (Option.not_isSome_iff_eq_none.mpr free)]
      exact (bind_ok_iff _ _ _).mpr ⟨inner, (skipColon_iff _ _).mpr colon,
        (bind_ok_iff _ _ _).mpr ⟨(value, rest), (readField_iff later _ _).mpr valued, rfl⟩⟩
  | @other name _ behindName inner _ named unknown colon valued =>
      rw [quoted_iff quote] at named
      have behind := named.length_lt.le.trans enough
      have later := colon.length_lt.le.trans behind
      refine ⟨name, behindName, (scanString_iff enough _ _).mpr named, ?_⟩
      rw [readMember_other unknown]
      exact (bind_ok_iff _ _ _).mpr ⟨inner, (skipColon_iff _ _).mpr colon,
        (bind_ok_iff _ _ _).mpr ⟨rest, skipValue_complete valued ends later, rfl⟩⟩

/-! Members are read one after another. What stays the same over a run is which values each field
has in all, those read before and those still to come; an entry has just one of each. -/

theorem readMembers_sound {limit fuel : Nat} {fields : Fields} {whole text rest : List Char}
    {entry : Entry} (quote : Mark '"' whole text) (enough : whole.length ≤ limit)
    (read : readMembers limit fuel fields text = .ok (entry, rest)) :
    ∃ members, Series MemberText '\x7d' whole members rest ∧
      ∀ field, fields.values members field = [fieldOf entry field] := by
  induction fuel generalizing fields whole text with
  | zero => cases read
  | succ fuel ih =>
      obtain ⟨⟨name, behindName⟩, scanned, read⟩ := (bind_ok_iff _ _ _).mp read
      obtain ⟨⟨after, behind⟩, taken, read⟩ := (bind_ok_iff _ _ _).mp read
      rw [scanString_iff (quote.length_lt.le.trans enough)] at scanned
      have named := (quoted_iff quote _ _).mpr scanned
      obtain ⟨member, found, free, rfl⟩ :=
        readMember_sound named (named.length_lt.le.trans enough) taken
      dsimp only at read
      split at read
      · cases read
      · next closing =>
          obtain ⟨_, complete, read⟩ := (bind_ok_iff _ _ _).mp read
          cases read
          refine ⟨[member], .last found (mark_of_found closing), fun field => ?_⟩
          rw [← Fields.values_take free]
          exact (Fields.entry_iff _ _).mp complete field
      · next later comma =>
          split at read
          · cases read
          · next inner another =>
              have comma := mark_of_found comma
              have shorter := comma.length_lt.trans found.length_lt
              obtain ⟨members, series, single⟩ := ih (mark_of_found another)
                (shorter.le.trans enough) read
              refine ⟨member :: members, .more found comma series, fun field => ?_⟩
              rw [← Fields.values_take free]
              exact single field
          · cases read
      · cases read

theorem readMembers_complete {limit : Nat} {whole rest : List Char} {members : List Member}
    (series : Series MemberText '\x7d' whole members rest) {fuel : Nat} {fields : Fields}
    {text : List Char} {entry : Entry} (quote : Mark '"' whole text)
    (enough : whole.length ≤ limit) (spare : whole.length ≤ fuel)
    (single : ∀ field, fields.values members field = [fieldOf entry field]) :
    readMembers limit fuel fields text = .ok (entry, rest) := by
  induction series generalizing fuel fields text with
  | last one close =>
      have inside := quote.length_lt.le.trans enough
      have free := Fields.free_of_values single
      obtain ⟨left, rfl, still⟩ := fuel_left one.length_lt spare
      obtain ⟨name, behindName, scanned, taken⟩ :=
        readMember_complete one (close.ends (by decide)) free quote inside
      have complete := (Fields.entry_iff _ _).mpr fun field =>
        (Fields.values_take free [] field).trans (single field)
      rw [mark_iff (by decide)] at close
      simp only [readMembers, scanned, taken, close, complete, bind, Except.bind]
  | more one comma others ih =>
      have inside := quote.length_lt.le.trans enough
      have free := Fields.free_of_values single
      obtain ⟨left, rfl, still⟩ := fuel_left (comma.length_lt.trans one.length_lt) spare
      obtain ⟨name, behindName, scanned, taken⟩ :=
        readMember_complete one (comma.ends (by decide)) free quote inside
      obtain ⟨_, _, next⟩ := others.begins
      obtain ⟨inner, another⟩ := next.quote
      have read := ih another
        ((comma.length_lt.trans one.length_lt).le.trans enough) still
        fun field => (Fields.values_take free _ field).trans (single field)
      rw [mark_iff (by decide)] at comma another
      simp only [readMembers, scanned, taken, comma, another, bind, Except.bind]
      exact read

theorem Fields.values_none (members : List Member) (field : Field) :
    Fields.values {} members field = members.filterMap (Member.valueOf field) := by
  cases field with
  | title => rfl
  | file => rfl

theorem readObject_iff {fuel : Nat} {text : List Char} (enough : text.length ≤ fuel)
    (entry : Entry) (rest : List Char) :
    readObject fuel text = .ok (entry, rest) ↔
      ∃ members, Series MemberText '\x7d' text members rest ∧
        ∀ field, members.filterMap (Member.valueOf field) = [fieldOf entry field] := by
  simp only [← Fields.values_none]
  constructor
  · intro read
    unfold readObject at read
    split at read
    · cases read
    · cases read
    · next quote => exact readMembers_sound (mark_of_found quote) enough read
    · cases read
  · intro ⟨members, series, single⟩
    obtain ⟨_, _, first⟩ := series.begins
    obtain ⟨inner, quote⟩ := first.quote
    have read := readMembers_complete series quote enough enough single
    rw [mark_iff (by decide)] at quote
    simp only [readObject, quote]
    exact read

/-! ## Entries -/

theorem readEntry_iff {fuel : Nat} {text : List Char} (enough : text.length ≤ fuel)
    (entry : Entry) (rest : List Char) :
    readEntry fuel text = .ok (entry, rest) ↔ EntryText text entry rest := by
  have inside {mark : Char} {inner : List Char} (opening : Mark mark text inner) :
      inner.length ≤ fuel := opening.length_lt.le.trans enough
  constructor
  · intro read
    unfold readEntry at read
    split at read
    · cases read
    · next inner opening =>
        have opening := mark_of_found opening
        obtain ⟨_, _, _, titled, comma, filed, closing⟩ := readPair_sound (inside opening) read
        exact .pair opening titled comma filed closing
    · next inner opening =>
        have opening := mark_of_found opening
        obtain ⟨members, series, single⟩ := (readObject_iff (inside opening) _ _).mp read
        exact .object opening series (single .title) (single .file)
    · exact absurd read (refuse_ne_ok _ _ _ _)
  · intro written
    cases written with
    | pair opening titled comma filed closing =>
        have read := readPair_complete (inside opening) titled comma filed closing
        rw [mark_iff (by decide)] at opening
        simp only [readEntry, opening]
        exact read
    | @object title file members _ _ _ opening series titles files =>
        have single (field : Field) :
            members.filterMap (Member.valueOf field) = [fieldOf ⟨title, file⟩ field] := by
          cases field with
          | title => exact titles
          | file => exact files
        have read := (readObject_iff (inside opening) _ _).mpr ⟨members, series, single⟩
        rw [mark_iff (by decide)] at opening
        simp only [readEntry, opening]
        exact read

theorem Series.length_lt {α : Type} {One : List Char → α → List Char → Prop} {closing : Char}
    (shrinks : ∀ text item rest, One text item rest → rest.length < text.length)
    {text rest : List Char} {items : List α} (series : Series One closing text items rest) :
    rest.length < text.length := by
  induction series with
  | last one close => exact close.length_lt.trans (shrinks _ _ _ one)
  | more one comma _ ih =>
      exact ih.trans (comma.length_lt.trans (shrinks _ _ _ one))

theorem EntryText.length_lt {text rest : List Char} {entry : Entry}
    (written : EntryText text entry rest) : rest.length < text.length := by
  cases written with
  | pair opening titled comma filed closing =>
      exact closing.length_lt.trans (filed.length_lt.trans
        (comma.length_lt.trans (titled.length_lt.trans opening.length_lt)))
  | object opening series =>
      exact (series.length_lt fun _ _ _ => MemberText.length_lt).trans opening.length_lt

/-- An entry begins with one of two brackets. -/
theorem EntryText.opening {text rest : List Char} {entry : Entry}
    (written : EntryText text entry rest) :
    ∃ c inner, skipBlanks text = c :: inner ∧ c ≠ ']' := by
  cases written with
  | pair opening => exact ⟨_, _, opening.found (by decide), by decide⟩
  | object opening => exact ⟨_, _, opening.found (by decide), by decide⟩

theorem readEntries_skipBlanks (limit : Nat) (reversed : List Entry) (fuel : Nat)
    (text : List Char) :
    readEntries limit reversed fuel (skipBlanks text) = readEntries limit reversed fuel text := by
  cases fuel with
  | zero => rfl
  | succ fuel =>
      simp only [readEntries, readEntry, ← (blanks_skipBlanks text).skip]

theorem readEntries_sound {limit fuel : Nat} {reversed entries : List Entry}
    {text rest : List Char} (enough : text.length ≤ limit)
    (read : readEntries limit reversed fuel text = .ok (entries, rest)) :
    ∃ items, Series EntryText ']' text items rest ∧ entries = reversed.reverse ++ items := by
  induction fuel generalizing reversed text with
  | zero => cases read
  | succ fuel ih =>
      obtain ⟨⟨entry, behind⟩, written, read⟩ := (bind_ok_iff _ _ _).mp read
      rw [readEntry_iff enough] at written
      dsimp only at read
      split at read
      · cases read
      · next closing =>
          cases read
          exact ⟨[entry], .last written (mark_of_found closing), by simp⟩
      · next later comma =>
          have comma := mark_of_found comma
          have shorter := comma.length_lt.trans written.length_lt
          split at read
          · cases read
          · cases read
          · rw [readEntries_skipBlanks] at read
            obtain ⟨items, series, same⟩ :=
              ih (shorter.le.trans enough) read
            exact ⟨entry :: items, .more written comma series, by simp [same]⟩
      · cases read

theorem readEntries_complete {limit : Nat} {text rest : List Char} {items : List Entry}
    (series : Series EntryText ']' text items rest) (reversed : List Entry) {fuel : Nat}
    (enough : text.length ≤ limit) (spare : text.length ≤ fuel) :
    readEntries limit reversed fuel text = .ok (reversed.reverse ++ items, rest) := by
  induction series generalizing reversed fuel with
  | last one close =>
      obtain ⟨left, rfl, -⟩ := fuel_left one.length_lt spare
      rw [mark_iff (by decide)] at close
      simp only [readEntries, (readEntry_iff enough _ _).mpr one, close, bind, Except.bind,
        List.reverse_cons]
  | @more _ _ _ _ entry _ one comma others ih =>
      have shorter := comma.length_lt.trans one.length_lt
      obtain ⟨left, rfl, still⟩ := fuel_left shorter spare
      obtain ⟨_, _, next⟩ := others.begins
      obtain ⟨c, inner, opening, notClosing⟩ := next.opening
      have read := ih (entry :: reversed) (shorter.le.trans enough) still
      rw [← readEntries_skipBlanks, opening] at read
      rw [mark_iff (by decide)] at comma
      simp only [readEntries, (readEntry_iff enough _ _).mpr one, comma, opening, bind, Except.bind]
      split
      · next same => cases same
      · next same =>
          cases same
          exact absurd rfl notClosing
      · simpa using read

/-! ## Catalogs -/

/-- Behind the list there may only be blanks. -/
theorem finish_iff (found entries : List Entry) (rest : List Char) :
    (match skipBlanks rest with
      | [] => Except.ok found
      | _ => .error JsonError.illFormed) = .ok entries ↔ found = entries ∧ Blanks rest [] := by
  rw [blanks_nil_iff]
  split
  · next ended => simp [ended]
  · next more => exact ⟨nofun, fun ⟨_, ended⟩ => absurd ended more⟩

theorem readCatalog_iff (text : List Char) (entries : List Entry) :
    readCatalog text = .ok entries ↔ CatalogText text entries := by
  have inside {inner : List Char} (opening : Mark '[' text inner) :
      inner.length ≤ text.length + 1 := Nat.le_succ_of_le opening.length_lt.le
  constructor
  · intro read
    unfold readCatalog at read
    dsimp only at read
    split at read
    · cases read
    · next inner opening =>
        have opening := mark_of_found opening
        split at read
        · next later closing =>
            obtain ⟨rfl, blanks⟩ := (finish_iff _ _ _).mp read
            exact .empty opening (mark_of_found closing) blanks
        · obtain ⟨⟨found, rest⟩, listed, read⟩ := (bind_ok_iff _ _ _).mp read
          obtain ⟨rfl, blanks⟩ := (finish_iff _ _ _).mp read
          obtain ⟨items, series, rfl⟩ := readEntries_sound (inside opening) listed
          exact .filled opening series blanks
    · obtain ⟨_, refused, _⟩ := (bind_ok_iff _ _ _).mp read
      exact absurd refused (refuse_ne_ok _ _ _ _)
  · intro written
    unfold readCatalog
    cases written with
    | empty opening closing blanks =>
        rw [mark_iff (by decide)] at opening closing
        simp only [opening, closing]
        exact (finish_iff _ _ _).mpr ⟨rfl, blanks⟩
    | filled opening series blanks =>
        have read := readEntries_complete series [] (inside opening) (inside opening)
        obtain ⟨_, _, first⟩ := series.begins
        obtain ⟨c, behind, begun, notClosing⟩ := first.opening
        rw [mark_iff (by decide)] at opening
        simp only [opening, begun]
        split
        · next same =>
            cases same
            exact absurd rfl notClosing
        · exact (bind_ok_iff _ _ _).mpr ⟨_, read, (finish_iff _ _ _).mpr ⟨rfl, blanks⟩⟩

/-- A member that belongs to no field, and escapes in a name and in a string. -/
example : CatalogText
    "[\x7b\"x\": [-1.5e3], \"fil\\u0065\": \"a\", \"title\": \"\\uD83D\\uDE00\"\x7d] ".toList
    [⟨"😀", "a"⟩] :=
  (readCatalog_iff _ _).mp (by rfl)

/-! ## Every list of entries can be written -/

theorem digitChar_hexDigit {value : Nat} (small : value < 16) : HexDigit value.digitChar value :=
  ⟨small, .inl rfl⟩

theorem exists_spelling (c : Char) (rest : List Char) : ∃ text, Spelling text c rest := by
  by_cases printable : 0x20 ≤ c.toNat
  · by_cases quote : c = '"'
    · have listed : ('"', c) ∈ letterEscapes := by simp [quote, letterEscapes]
      exact ⟨_, .letter listed⟩
    · by_cases backslash : c = '\\'
      · have listed : ('\\', c) ∈ letterEscapes := by simp [backslash, letterEscapes]
        exact ⟨_, .letter listed⟩
      · exact ⟨_, .plain ⟨quote, backslash, printable⟩⟩
  · -- Control characters have no letter in general, but any of them has a unit.
    have zero : HexDigit '0' 0 := digitChar_hexDigit (by decide)
    have unit : CodeUnit
        ('0' :: '0' :: (c.toNat / 16).digitChar :: (c.toNat % 16).digitChar :: rest)
        (4096 * 0 + 256 * 0 + 16 * (c.toNat / 16) + c.toNat % 16) rest :=
      .digits zero zero (digitChar_hexDigit (by omega)) (digitChar_hexDigit (by omega))
    rw [show 4096 * 0 + 256 * 0 + 16 * (c.toNat / 16) + c.toNat % 16 = c.toNat by omega] at unit
    exact ⟨_, .unit unit⟩

theorem exists_spellings (meant rest : List Char) : ∃ text, Spellings text meant rest := by
  induction meant with
  | nil => exact ⟨_, .close⟩
  | cons c meant ih =>
      obtain ⟨later, others⟩ := ih
      obtain ⟨text, first⟩ := exists_spelling c later
      exact ⟨text, .more first others⟩

theorem exists_quoted (meant : String) (rest : List Char) : ∃ text, Quoted text meant rest := by
  obtain ⟨inner, spellings⟩ := exists_spellings meant.toList rest
  exact ⟨'"' :: inner, inner, .none, spellings⟩

theorem exists_entryText (entry : Entry) (rest : List Char) :
    ∃ text, EntryText text entry rest := by
  obtain ⟨second, filed⟩ := exists_quoted entry.file (']' :: rest)
  obtain ⟨inner, titled⟩ := exists_quoted entry.title (',' :: second)
  exact ⟨'[' :: inner, .pair .none titled .none filed .none⟩

theorem exists_series (entry : Entry) (entries : List Entry) :
    ∃ text, Series EntryText ']' text (entry :: entries) [] := by
  induction entries generalizing entry with
  | nil =>
      obtain ⟨text, one⟩ := exists_entryText entry [']']
      exact ⟨text, .last one .none⟩
  | cons next entries ih =>
      obtain ⟨later, others⟩ := ih next
      obtain ⟨text, one⟩ := exists_entryText entry (',' :: later)
      exact ⟨text, .more one .none others⟩

theorem exists_catalogText (entries : List Entry) : ∃ text, CatalogText text entries := by
  cases entries with
  | nil => exact ⟨['[', ']'], .empty .none .none .none⟩
  | cons entry entries =>
      obtain ⟨inner, series⟩ := exists_series entry entries
      exact ⟨'[' :: inner, .filled .none series .none⟩

end Chip8Inspector.Json

namespace Chip8Inspector.Catalog

open Json

set_option autoImplicit false

theorem ofJson_ok_iff (json root : String) (catalog : Catalog) :
    ofJson json root = .ok catalog ↔
      CatalogText json.toList catalog.entries ∧ catalog.root = root := by
  rw [← readCatalog_iff]
  unfold ofJson
  split
  · next refused => simp [refused]
  · next entries read =>
      rw [read, ofEntries]
      split
      · next empty =>
          refine ⟨nofun, fun ⟨same, _⟩ => ?_⟩
          cases same
          exact absurd empty catalog.entries_ne_nil
      · constructor
        · intro same
          cases same
          exact ⟨rfl, rfl⟩
        · intro ⟨same, rooted⟩
          cases same
          cases rooted
          rfl

theorem ofJson_empty_iff (json root : String) :
    ofJson json root = .error .empty ↔ CatalogText json.toList [] := by
  rw [← readCatalog_iff]
  unfold ofJson
  split
  · next refused => simp [refused]
  · next entries read =>
      rw [read, ofEntries]
      split
      · next empty => simp [empty]
      · next some => simp [some]

/-- A catalog is read from a text exactly if the text lists its entries in their order. There is one
for every text that lists any, and a text that lists none is refused for that, as is no other. -/
theorem catalog_read_back (json root : String) :
    (∀ catalog : Catalog, ofJson json root = .ok catalog ↔
        CatalogText json.toList catalog.entries ∧ catalog.root = root) ∧
      (∀ entries : List Entry, CatalogText json.toList entries → entries ≠ [] →
        ∃ catalog, ofJson json root = .ok catalog ∧ catalog.entries = entries) ∧
      (ofJson json root = .error .empty ↔ CatalogText json.toList []) := by
  refine ⟨ofJson_ok_iff json root, ?_, ofJson_empty_iff json root⟩
  intro entries written some
  let catalog : Catalog := ⟨entries, root, some⟩
  exact ⟨catalog, (ofJson_ok_iff json root catalog).mpr ⟨written, rfl⟩, rfl⟩

/-- No catalog is out of reach: each of them is read from some text. -/
theorem exists_json (catalog : Catalog) : ∃ json, ofJson json catalog.root = .ok catalog := by
  obtain ⟨text, written⟩ := exists_catalogText catalog.entries
  exact ⟨.ofList text, (ofJson_ok_iff _ _ _).mpr ⟨by rwa [String.toList_ofList], rfl⟩⟩

end Chip8Inspector.Catalog
