import Chip8Inspector.Catalog.Loader
import Mathlib.Data.List.Induction
import Mathlib.Data.List.Nodup

/-!
# Only the latest fetch is delivered, once, and never lost

Any number of fetches can be in flight, and their answers reach the channel in any order. A
ledger beside the loader writes down what an observer of the threads would see: which fetches were
made, which of them were answered, and which outcomes were handed out. What the loader does is
then told from the ledger alone.
-/

namespace Chip8Inspector

set_option autoImplicit false

namespace Loader

def due (loader : Loader) : Option Completion :=
  (takeUntil loader.generation loader.channel).2.1

theorem poll_outcome (loader : Loader) : loader.poll.1 = loader.due.map Completion.outcome :=
  rfl

/-- The channel is a queue: what is passed over, what is handed out and what is left lie in it
one behind the other. -/
theorem takeUntil_split (generation : Nat) (channel : List Completion) :
    let taken := takeUntil generation channel
    channel = taken.1 ++ taken.2.1.toList ++ taken.2.2 ∧
      (∀ completion ∈ taken.1, completion.generation ≠ generation) ∧
      (∀ completion ∈ taken.2.1, completion.generation = generation) ∧
      (taken.2.1 = none → taken.2.2 = []) := by
  induction channel with
  | nil => exact ⟨rfl, nofun, nofun, fun _ => rfl⟩
  | cons completion rest ih =>
      unfold takeUntil
      by_cases wanted : completion.generation = generation
      · rw [if_pos wanted]
        refine ⟨rfl, nofun, ?_, nofun⟩
        intro other same
        cases same
        exact wanted
      · rw [if_neg wanted]
        rcases ih with ⟨split, unwanted, found, left⟩
        refine ⟨congrArg (completion :: ·) split, ?_, found, left⟩
        intro other member
        rcases List.mem_cons.mp member with rfl | later
        · exact wanted
        · exact unwanted other later

/-- Nothing is due exactly when no answer to the latest fetch is in the channel, and then a poll
empties the channel. -/
theorem due_eq_none {loader : Loader} (nothing : loader.due = none) :
    (∀ completion ∈ loader.channel, completion.generation ≠ loader.generation) ∧
      loader.poll.2.1.channel = [] := by
  obtain ⟨whole, unwanted, -, rest⟩ := takeUntil_split loader.generation loader.channel
  have none : (takeUntil loader.generation loader.channel).2.1 = none := nothing
  rw [none, rest none] at whole
  refine ⟨?_, rest none⟩
  intro completion member
  rw [whole] at member
  exact unwanted completion (by simpa using member)

theorem due_eq_some {loader : Loader} {completion : Completion}
    (due : loader.due = some completion) :
    completion.generation = loader.generation ∧
      ∃ dropped, loader.channel = dropped ++ completion :: loader.poll.2.1.channel := by
  obtain ⟨whole, -, wanted, -⟩ := takeUntil_split loader.generation loader.channel
  have handed : (takeUntil loader.generation loader.channel).2.1 = some completion := due
  rw [handed] at whole wanted
  refine ⟨wanted completion rfl, (takeUntil loader.generation loader.channel).1, ?_⟩
  rw [List.append_assoc] at whole
  exact whole

theorem due_isSome (loader : Loader) :
    loader.due.isSome = true ↔
      loader.generation ∈ loader.channel.map Completion.generation := by
  constructor
  · intro due
    obtain ⟨completion, due⟩ := Option.isSome_iff_exists.mp due
    obtain ⟨wanted, dropped, whole⟩ := due_eq_some due
    rw [whole, ← wanted]
    simp
  · intro member
    obtain ⟨completion, inside, wanted⟩ := List.mem_map.mp member
    cases due : loader.due with
    | none => exact absurd wanted ((due_eq_none due).1 completion inside)
    | some other => rfl

end Loader

section Waiting

variable {State Other Answer Outcome : Type}

/-- A caller that waits looks again after each answer until it has what it waits for, or its time
is over. Answers that are sent after that are left for later. -/
def waitThrough (look : State → Option Outcome × State) (answer : State → Answer → State)
    (state : State) : List Answer → Option Outcome × State
  | [] => look state
  | next :: later =>
      match look state with
      | (some outcome, served) => (some outcome, (next :: later).foldl answer served)
      | (none, waiting) => waitThrough look answer (answer waiting next) later

variable {look : State → Option Outcome × State} {answer : State → Answer → State}
  {lookOther : Other → Option Outcome × Other} {answerOther : Other → Answer → Other}

end Waiting

/-- What can happen to a loader. A wait comes with the fetches that are answered while it
lasts. -/
inductive LoaderEvent where
  | fetch (title path : String)
  | answer (generation : Nat)
  | poll
  | wait (answers : List Nat)

/-- A loader and what was seen of it, oldest first. Fetches are numbered from one on. -/
structure Ledger where
  loader : Loader := {}
  fetches : List (String × String) := []
  /-- The fetches whose thread has sent its answer. -/
  answered : List Nat := []
  /-- The fetches whose outcome was handed out. -/
  delivered : List Nat := []

namespace Ledger

def latest (ledger : Ledger) : Nat :=
  ledger.fetches.length

def Made (ledger : Ledger) (generation : Nat) : Prop :=
  0 < generation ∧ generation ≤ ledger.latest

instance (ledger : Ledger) (generation : Nat) : Decidable (ledger.Made generation) :=
  inferInstanceAs (Decidable (_ ∧ _))

def fetch (ledger : Ledger) (title path : String) : Ledger where
  loader := (ledger.loader.fetch title path).1
  fetches := ledger.fetches ++ [(title, path)]
  answered := ledger.answered
  delivered := ledger.delivered

/-- Takes what the channel holds, and notes which answer was handed out. -/
def poll (ledger : Ledger) : Ledger where
  loader := ledger.loader.poll.2.1
  fetches := ledger.fetches
  answered := ledger.answered
  delivered := ledger.delivered ++ (ledger.loader.due.map Completion.generation).toList

def look (ledger : Ledger) : Option (Except LoadError LoadedProgram) × Ledger :=
  (ledger.loader.wait.1,
    if ledger.loader.pending then ledger.poll
    else { ledger with loader := ledger.loader.wait.2.1 })

-- What the thread of each fetch finds when it reads its file.
variable (found : Nat → Except FileError Program)

/-- The thread of a fetch sends its one answer. A fetch that was not made, or has sent its answer
already, has no thread. -/
def answer (ledger : Ledger) (generation : Nat) : Ledger where
  loader := ledger.loader.complete generation (found generation)
  fetches := ledger.fetches
  answered :=
    if ledger.Made generation ∧ generation ∉ ledger.answered then
      ledger.answered ++ [generation]
    else ledger.answered
  delivered := ledger.delivered

def wait (ledger : Ledger) (answers : List Nat) :
    Option (Except LoadError LoadedProgram) × Ledger :=
  waitThrough look (answer found) ledger answers

def after (ledger : Ledger) : LoaderEvent → Ledger
  | .fetch title path => ledger.fetch title path
  | .answer generation => ledger.answer found generation
  | .poll => ledger.poll
  | .wait answers => (ledger.wait found answers).2

def run (events : List LoaderEvent) : Ledger :=
  events.foldl (after found) {}

def Asked (ledger : Ledger) (generation : Nat) (title path : String) : Prop :=
  0 < generation ∧ ledger.fetches[generation - 1]? = some (title, path)

structure Consistent (ledger : Ledger) : Prop where
  numbered : ledger.loader.generation = ledger.latest
  made : ∀ generation ∈ ledger.answered, ledger.Made generation
  asked : ∀ fetch ∈ ledger.loader.inFlight,
    ledger.Asked fetch.generation fetch.title fetch.path
  reading : ∀ generation, generation ∈ ledger.loader.inFlight.map Fetch.generation ↔
    ledger.Made generation ∧ generation ∉ ledger.answered
  sent : ∀ completion ∈ ledger.loader.channel, ∃ path,
    ledger.Asked completion.generation completion.title path ∧
      completion.result = programOf path (found completion.generation)
  once : (ledger.loader.channel.map Completion.generation).Nodup
  unreceived : ∀ generation ∈ ledger.loader.channel.map Completion.generation,
    generation ∈ ledger.answered ∧ generation ∉ ledger.delivered
  kept : ledger.latest ∈ ledger.answered → ledger.latest ∉ ledger.delivered →
    ledger.latest ∈ ledger.loader.channel.map Completion.generation
  handedOut : ∀ generation ∈ ledger.delivered, generation ∈ ledger.answered
  increasing : ledger.delivered.Pairwise (· < ·)
  pending : ledger.loader.pending = true ↔ ledger.fetches ≠ [] ∧ ledger.latest ∉ ledger.delivered

variable {found}

theorem empty_consistent : ({} : Ledger).Consistent found where
  numbered := rfl
  made := nofun
  asked := nofun
  reading := by
    intro generation
    constructor
    · nofun
    · rintro ⟨⟨positive, bounded⟩, -⟩
      have : generation ≤ 0 := bounded
      omega
  sent := nofun
  once := List.nodup_nil
  unreceived := nofun
  kept := nofun
  handedOut := nofun
  increasing := List.Pairwise.nil
  pending := by
    constructor
    · nofun
    · rintro ⟨some, -⟩
      exact absurd rfl some

theorem asked_fetch {ledger : Ledger} {generation : Nat} {title path : String}
    (asked : ledger.Asked generation title path) (newTitle newPath : String) :
    (ledger.fetch newTitle newPath).Asked generation title path := by
  refine ⟨asked.1, ?_⟩
  have inside : generation - 1 < ledger.fetches.length :=
    (List.getElem?_eq_some_iff.mp asked.2).1
  show (ledger.fetches ++ [(newTitle, newPath)])[generation - 1]? = some (title, path)
  rw [List.getElem?_append_left inside]
  exact asked.2

theorem latest_fetch (ledger : Ledger) (title path : String) :
    (ledger.fetch title path).latest = ledger.latest + 1 := by
  simp [latest, fetch]

theorem fetch_consistent {ledger : Ledger} (consistent : ledger.Consistent found)
    (title path : String) : (ledger.fetch title path).Consistent found := by
  have count := latest_fetch ledger title path
  have unanswered : ledger.latest + 1 ∉ ledger.answered := by
    intro member
    have := (consistent.made _ member).2
    omega
  constructor
  case numbered => rw [count, ← consistent.numbered]; rfl
  case made =>
    intro generation member
    have old := consistent.made generation member
    exact ⟨old.1, by rw [count]; exact Nat.le_succ_of_le old.2⟩
  case asked =>
    intro fetch member
    rcases List.mem_append.mp member with old | new
    · exact asked_fetch (consistent.asked fetch old) title path
    · rw [List.mem_singleton.mp new]
      refine ⟨Nat.succ_pos _, ?_⟩
      show (ledger.fetches ++ [(title, path)])[ledger.loader.generation + 1 - 1]? = _
      rw [consistent.numbered]
      simp [latest]
  case reading =>
    intro generation
    have flights : (ledger.fetch title path).loader.inFlight.map Fetch.generation =
        ledger.loader.inFlight.map Fetch.generation ++ [ledger.latest + 1] := by
      rw [← consistent.numbered]
      exact List.map_append
    rw [flights, List.mem_append, consistent.reading, List.mem_singleton]
    unfold Made
    rw [count]
    constructor
    · rintro (⟨⟨positive, bounded⟩, unread⟩ | rfl)
      · exact ⟨⟨positive, Nat.le_succ_of_le bounded⟩, unread⟩
      · exact ⟨⟨Nat.succ_pos _, Nat.le_refl _⟩, unanswered⟩
    · rintro ⟨⟨positive, bounded⟩, unread⟩
      rcases Nat.lt_or_eq_of_le bounded with older | newest
      · exact .inl ⟨⟨positive, Nat.le_of_lt_succ older⟩, unread⟩
      · exact .inr newest
  case sent =>
    intro completion member
    obtain ⟨oldPath, asked, result⟩ := consistent.sent completion member
    exact ⟨oldPath, asked_fetch asked title path, result⟩
  case once => exact consistent.once
  case unreceived => exact consistent.unreceived
  case kept =>
    intro answered
    rw [count] at answered
    exact absurd answered unanswered
  case handedOut => exact consistent.handedOut
  case increasing => exact consistent.increasing
  case pending =>
    constructor
    · intro _
      refine ⟨by simp [fetch], ?_⟩
      rw [count]
      exact fun member => unanswered (consistent.handedOut _ member)
    · intro _
      rfl

theorem answer_idle {ledger : Ledger} (consistent : ledger.Consistent found) {generation : Nat}
    (idle : ¬(ledger.Made generation ∧ generation ∉ ledger.answered)) :
    ledger.answer found generation = ledger := by
  have unread : ledger.loader.inFlight.find? (fun fetch => fetch.generation == generation) =
      none := by
    rw [List.find?_eq_none]
    intro fetch member same
    apply idle
    rw [← consistent.reading, ← beq_iff_eq.mp same]
    exact List.mem_map_of_mem member
  unfold answer Loader.complete
  rw [unread, if_neg idle]

/-- A fetch that has one sends what it found, under the title that it was made with. -/
theorem answer_busy {ledger : Ledger} (consistent : ledger.Consistent found) {generation : Nat}
    (busy : ledger.Made generation ∧ generation ∉ ledger.answered) :
    ∃ title path, ledger.Asked generation title path ∧
      ledger.answer found generation =
        { ledger with
          loader := { ledger.loader with
            inFlight := ledger.loader.inFlight.filter (·.generation != generation)
            channel := ledger.loader.channel ++
              [⟨generation, title, programOf path (found generation)⟩] }
          answered := ledger.answered ++ [generation] } := by
  obtain ⟨fetch, member, same⟩ := List.mem_map.mp ((consistent.reading generation).mpr busy)
  cases read : ledger.loader.inFlight.find? fun fetch => fetch.generation == generation with
  | none => exact absurd (beq_iff_eq.mpr same) (List.find?_eq_none.mp read fetch member)
  | some first =>
      have wanted : first.generation = generation := by simpa using List.find?_some read
      have asked := consistent.asked first (List.mem_of_find?_eq_some read)
      rw [wanted] at asked
      refine ⟨first.title, first.path, asked, ?_⟩
      unfold answer Loader.complete
      rw [read, if_pos busy]

theorem answer_consistent {ledger : Ledger} (consistent : ledger.Consistent found)
    (generation : Nat) : (ledger.answer found generation).Consistent found := by
  by_cases busy : ledger.Made generation ∧ generation ∉ ledger.answered
  · obtain ⟨title, path, asked, answered⟩ := answer_busy consistent busy
    rw [answered]
    have unsent : generation ∉ ledger.loader.channel.map Completion.generation :=
      fun member => busy.2 (consistent.unreceived generation member).1
    constructor
    case numbered => exact consistent.numbered
    case made =>
      intro other member
      rcases List.mem_append.mp member with old | new
      · exact consistent.made other old
      · rw [List.mem_singleton.mp new]
        exact busy.1
    case asked =>
      intro fetch member
      exact consistent.asked fetch (List.mem_filter.mp member).1
    case reading =>
      intro other
      have old := consistent.reading other
      simp only [List.mem_map, List.mem_filter, bne_iff_ne] at old ⊢
      constructor
      · rintro ⟨fetch, ⟨member, different⟩, rfl⟩
        obtain ⟨made, unread⟩ := old.mp ⟨fetch, member, rfl⟩
        refine ⟨made, ?_⟩
        simp [unread, different]
      · rintro ⟨made, unread⟩
        simp only [List.mem_append, List.mem_singleton, not_or] at unread
        obtain ⟨fetch, member, same⟩ := old.mpr ⟨made, unread.1⟩
        exact ⟨fetch, ⟨member, by rw [same]; exact unread.2⟩, same⟩
    case sent =>
      intro completion member
      rcases List.mem_append.mp member with old | new
      · exact consistent.sent completion old
      · rw [List.mem_singleton.mp new]
        exact ⟨path, asked, rfl⟩
    case once =>
      show ((ledger.loader.channel ++ _).map Completion.generation).Nodup
      rw [List.map_append, List.nodup_append]
      refine ⟨consistent.once, List.nodup_singleton _, ?_⟩
      rintro old oldMember new newMember rfl
      rw [List.map_singleton, List.mem_singleton] at newMember
      rw [newMember] at oldMember
      exact unsent oldMember
    case unreceived =>
      intro other member
      simp only [List.map_append, List.mem_append, List.map_singleton, List.mem_singleton]
        at member ⊢
      rcases member with old | rfl
      · exact ⟨.inl (consistent.unreceived other old).1, (consistent.unreceived other old).2⟩
      · exact ⟨.inr rfl, fun handed => busy.2 (consistent.handedOut other handed)⟩
    case kept =>
      intro member unhanded
      simp only [List.map_append, List.mem_append, List.map_singleton, List.mem_singleton]
        at member ⊢
      rcases member with old | new
      · exact .inl (consistent.kept old unhanded)
      · exact .inr new
    case handedOut =>
      intro other member
      exact List.mem_append_left _ (consistent.handedOut other member)
    case increasing => exact consistent.increasing
    case pending => exact consistent.pending
  · rw [answer_idle consistent busy]
    exact consistent

theorem mem_answered {ledger : Ledger} {generation : Nat} (sent : Nat) :
    generation ∈ (ledger.answer found sent).answered ↔
      generation ∈ ledger.answered ∨ generation = sent ∧ ledger.Made generation := by
  unfold answer
  dsimp only
  split
  next busy =>
    rw [List.mem_append, List.mem_singleton]
    constructor
    · rintro (old | rfl)
      · exact .inl old
      · exact .inr ⟨rfl, busy.1⟩
    · rintro (old | ⟨rfl, -⟩)
      · exact .inl old
      · exact .inr rfl
  next idle =>
    constructor
    · exact .inl
    · rintro (old | ⟨rfl, made⟩)
      · exact old
      · exact not_not.mp fun unread => idle ⟨made, unread⟩

/-- A poll that finds nothing only throws the answers away that were superseded. -/
theorem poll_idle {ledger : Ledger} (nothing : ledger.loader.due = none) :
    ledger.poll = { ledger with loader := { ledger.loader with channel := [] } } := by
  have emptied : (Loader.takeUntil ledger.loader.generation ledger.loader.channel).2.2 = [] :=
    (Loader.due_eq_none nothing).2
  have unfound : (Loader.takeUntil ledger.loader.generation ledger.loader.channel).2.1 = none :=
    nothing
  unfold poll Loader.poll
  simp only [nothing, unfound, emptied, Option.isNone_none, Bool.and_true, Option.map_none,
    Option.toList_none, List.append_nil]

/-- A poll that finds an answer hands it out, and leaves what lies behind it in the channel. -/
theorem poll_delivers {ledger : Ledger} (consistent : ledger.Consistent found)
    {completion : Completion} (due : ledger.loader.due = some completion) :
    completion.generation = ledger.latest ∧
      ∃ dropped left, ledger.loader.channel = dropped ++ completion :: left ∧
        ledger.poll =
          { ledger with
            loader := { ledger.loader with pending := false, channel := left }
            delivered := ledger.delivered ++ [ledger.latest] } := by
  obtain ⟨wanted, dropped, whole⟩ := Loader.due_eq_some due
  have newest : completion.generation = ledger.latest := wanted.trans consistent.numbered
  have handed : (Loader.takeUntil ledger.loader.generation ledger.loader.channel).2.1 =
    some completion := due
  refine ⟨newest, dropped, _, whole, ?_⟩
  unfold poll Loader.poll
  simp only [due, handed, Option.isNone_some, Bool.and_false, Option.map_some,
    Option.toList_some, newest]

theorem poll_idle_consistent {ledger : Ledger} (consistent : ledger.Consistent found)
    (nothing : ledger.loader.due = none) : ledger.poll.Consistent found := by
  rw [poll_idle nothing]
  constructor
  case numbered => exact consistent.numbered
  case made => exact consistent.made
  case asked => exact consistent.asked
  case reading => exact consistent.reading
  case sent => nofun
  case once => exact List.nodup_nil
  case unreceived => nofun
  case kept =>
    intro answered unhanded
    obtain ⟨completion, member, same⟩ := List.mem_map.mp (consistent.kept answered unhanded)
    exact absurd (same.trans consistent.numbered.symm)
      ((Loader.due_eq_none nothing).1 completion member)
  case handedOut => exact consistent.handedOut
  case increasing => exact consistent.increasing
  case pending => exact consistent.pending

/-- What lies behind the answer that is handed out was sent by other fetches, and all that were
handed out before are older. -/
theorem poll_delivers_consistent {ledger : Ledger} (consistent : ledger.Consistent found)
    {completion : Completion} (due : ledger.loader.due = some completion) :
    ledger.poll.Consistent found := by
  obtain ⟨newest, dropped, left, whole, polled⟩ := poll_delivers consistent due
  have tail : ∀ other ∈ left, other ∈ ledger.loader.channel := by
    intro other member
    rw [whole]
    exact List.mem_append_right _ (List.mem_cons_of_mem _ member)
  have once := consistent.once
  rw [whole, List.map_append, List.map_cons, newest, List.nodup_append, List.nodup_cons]
    at once
  have taken := consistent.unreceived ledger.latest (by
    rw [whole, ← newest]
    simp)
  have last : ledger.latest ∈ ledger.delivered ++ [ledger.latest] :=
    List.mem_append_right _ (List.mem_singleton_self _)
  rw [polled]
  constructor
  case numbered => exact consistent.numbered
  case made => exact consistent.made
  case asked => exact consistent.asked
  case reading => exact consistent.reading
  case sent => exact fun other member => consistent.sent other (tail other member)
  case once => exact once.2.1.2
  case unreceived =>
    intro generation member
    obtain ⟨other, inside, same⟩ := List.mem_map.mp member
    have old := consistent.unreceived generation
      (List.mem_map.mpr ⟨other, tail other inside, same⟩)
    refine ⟨old.1, ?_⟩
    rw [List.mem_append, List.mem_singleton, not_or]
    refine ⟨old.2, ?_⟩
    rintro rfl
    exact once.2.1.1 member
  case kept => exact fun _ unhanded => absurd last unhanded
  case handedOut =>
    intro generation member
    rcases List.mem_append.mp member with old | new
    · exact consistent.handedOut generation old
    · rw [List.mem_singleton.mp new]
      exact taken.1
  case increasing =>
    rw [List.pairwise_append]
    refine ⟨consistent.increasing, List.pairwise_singleton _ _, ?_⟩
    intro older member newer singleton
    rw [List.mem_singleton.mp singleton]
    have bound := (consistent.made older (consistent.handedOut older member)).2
    have different : older ≠ ledger.latest := by
      rintro rfl
      exact taken.2 member
    omega
  case pending =>
    constructor
    · nofun
    · rintro ⟨-, unhanded⟩
      exact absurd last unhanded

theorem poll_consistent {ledger : Ledger} (consistent : ledger.Consistent found) :
    ledger.poll.Consistent found := by
  cases due : ledger.loader.due with
  | none => exact poll_idle_consistent consistent due
  | some completion => exact poll_delivers_consistent consistent due

variable (found) in
/-- Either nothing is handed out, or what the latest fetch has found, under its own title. -/
def HandsOut (ledger next : Ledger) : Option (Except LoadError LoadedProgram) → Prop
  | none => next.delivered = ledger.delivered
  | some outcome =>
      next.delivered = ledger.delivered ++ [ledger.latest] ∧
        ∃ title path, ledger.fetches.getLast? = some (title, path) ∧
          outcome = (programOf path (found ledger.latest)).map (⟨title, ·⟩)

def Ready (ledger : Ledger) : Prop :=
  ledger.latest ∈ ledger.answered ∧ ledger.latest ∉ ledger.delivered

theorem due_iff_ready {ledger : Ledger} (consistent : ledger.Consistent found) :
    ledger.loader.due.isSome = true ↔ ledger.Ready := by
  rw [Loader.due_isSome, consistent.numbered]
  constructor
  · exact consistent.unreceived ledger.latest
  · rintro ⟨answered, unhanded⟩
    exact consistent.kept answered unhanded

theorem pending_of_ready {ledger : Ledger} (consistent : ledger.Consistent found)
    (ready : ledger.Ready) : ledger.loader.pending = true := by
  rw [consistent.pending]
  refine ⟨?_, ready.2⟩
  intro empty
  have made := consistent.made _ ready.1
  have none : ledger.latest = 0 := by
    unfold latest
    rw [empty]
    rfl
  unfold Made at made
  omega

theorem asked_latest {ledger : Ledger} {title path : String}
    (asked : ledger.Asked ledger.latest title path) :
    ledger.fetches.getLast? = some (title, path) := by
  rw [List.getLast?_eq_getElem?]
  exact asked.2

theorem poll_handsOut {ledger : Ledger} (consistent : ledger.Consistent found) :
    ledger.HandsOut found ledger.poll ledger.loader.poll.1 := by
  rw [Loader.poll_outcome]
  cases due : ledger.loader.due with
  | none =>
      show ledger.poll.delivered = ledger.delivered
      rw [poll_idle due]
  | some completion =>
      obtain ⟨newest, dropped, left, whole, polled⟩ := poll_delivers consistent due
      have member : completion ∈ ledger.loader.channel := by
        rw [whole]
        simp
      obtain ⟨path, asked, result⟩ := consistent.sent completion member
      rw [newest] at asked result
      refine ⟨by rw [polled], completion.title, path, asked_latest asked, ?_⟩
      rw [← result]
      rfl

/-- A caller that waits takes what a poll would hand it, unless nothing is pending. -/
theorem look_eq (ledger : Ledger) :
    ledger.look =
      if ledger.loader.pending then (ledger.loader.poll.1, ledger.poll) else (none, ledger) := by
  unfold look Loader.wait
  split <;> rfl

theorem look_consistent {ledger : Ledger} (consistent : ledger.Consistent found) :
    ledger.look.2.Consistent found := by
  rw [look_eq]
  split
  · exact poll_consistent consistent
  · exact consistent

theorem look_handsOut {ledger : Ledger} (consistent : ledger.Consistent found) :
    ledger.HandsOut found ledger.look.2 ledger.look.1 := by
  rw [look_eq]
  split
  · exact poll_handsOut consistent
  · exact rfl

theorem look_isSome {ledger : Ledger} (consistent : ledger.Consistent found) :
    ledger.look.1.isSome = true ↔ ledger.Ready := by
  rw [look_eq]
  split
  next pending =>
    rw [Loader.poll_outcome, Option.isSome_map]
    exact due_iff_ready consistent
  next idle =>
    constructor
    · nofun
    · exact fun ready => absurd (pending_of_ready consistent ready) idle

theorem look_frame (ledger : Ledger) :
    ledger.look.2.fetches = ledger.fetches ∧ ledger.look.2.answered = ledger.answered := by
  rw [look_eq]
  split <;> exact ⟨rfl, rfl⟩

theorem answers_consistent {ledger : Ledger} (consistent : ledger.Consistent found)
    (answers : List Nat) : (answers.foldl (answer found) ledger).Consistent found := by
  induction answers generalizing ledger with
  | nil => exact consistent
  | cons generation later ih => exact ih (answer_consistent consistent generation)

theorem answers_delivered (ledger : Ledger) (answers : List Nat) :
    (answers.foldl (answer found) ledger).delivered = ledger.delivered := by
  induction answers generalizing ledger with
  | nil => rfl
  | cons generation later ih => exact ih (ledger.answer found generation)

theorem delivered_of_handsOut {ledger next : Ledger}
    {outcome : Option (Except LoadError LoadedProgram)}
    (hands : ledger.HandsOut found next outcome) :
    next.delivered = ledger.delivered ∨ next.delivered = ledger.delivered ++ [ledger.latest] := by
  cases outcome with
  | none => exact .inl hands
  | some outcome => exact .inr hands.1

/-- Handing out looks at the fetches and at what was handed out before, and at nothing else. -/
theorem handsOut_of_same {ledger other next : Ledger}
    {outcome : Option (Except LoadError LoadedProgram)}
    (fetches : other.fetches = ledger.fetches) (delivered : other.delivered = ledger.delivered)
    (hands : other.HandsOut found next outcome) : ledger.HandsOut found next outcome := by
  unfold HandsOut latest at *
  rw [fetches, delivered] at hands
  exact hands

theorem pending_of_same {ledger other : Ledger} (otherConsistent : other.Consistent found)
    (consistent : ledger.Consistent found) (fetches : other.fetches = ledger.fetches)
    (delivered : other.delivered = ledger.delivered) :
    other.loader.pending = true ↔ ledger.loader.pending = true := by
  rw [otherConsistent.pending, consistent.pending]
  unfold latest
  rw [fetches, delivered]

theorem made_latest {ledger : Ledger} (consistent : ledger.Consistent found)
    (pending : ledger.loader.pending = true) : ledger.Made ledger.latest :=
  ⟨List.length_pos_of_ne_nil (consistent.pending.mp pending).1, Nat.le_refl _⟩

/-- The induction is on the answers that arrive during the wait. Until the last of them the caller
has looked in vain, so the delivered fetches are those from before. -/
theorem wait_consistent {ledger : Ledger} (consistent : ledger.Consistent found)
    (answers : List Nat) :
    (ledger.wait found answers).2.Consistent found ∧
      ledger.HandsOut found (ledger.wait found answers).2 (ledger.wait found answers).1 ∧
      ((ledger.wait found answers).1.isSome = true ↔
        ledger.loader.pending = true ∧
          (ledger.latest ∈ ledger.answered ∨ ledger.latest ∈ answers)) := by
  induction answers generalizing ledger with
  | nil =>
      refine ⟨look_consistent consistent, look_handsOut consistent, ?_⟩
      show ledger.look.1.isSome = true ↔ _
      rw [look_isSome consistent]
      constructor
      · intro ready
        exact ⟨pending_of_ready consistent ready, .inl ready.1⟩
      · rintro ⟨pending, answered | impossible⟩
        · exact ⟨answered, (consistent.pending.mp pending).2⟩
        · cases impossible
  | cons generation later ih =>
      have stays := look_consistent consistent
      have hands := look_handsOut consistent
      have isSome := look_isSome consistent
      have frame := look_frame ledger
      unfold wait waitThrough
      generalize ledger.look = looked at stays hands isSome frame ⊢
      rcases looked with ⟨outcome, served⟩
      cases outcome with
      | some outcome =>
          have ready := isSome.mp rfl
          refine ⟨answers_consistent stays _, ?_, ?_⟩
          · unfold HandsOut at hands ⊢
            rw [answers_delivered]
            exact hands
          · exact ⟨fun _ => ⟨pending_of_ready consistent ready, .inl ready.1⟩, fun _ => rfl⟩
      | none =>
          have undelivered : served.delivered = ledger.delivered := hands
          have sent := answer_consistent stays generation
          obtain ⟨finish, handed, delivers⟩ := ih sent
          have latest : (served.answer found generation).latest = ledger.latest :=
            congrArg List.length frame.1
          refine ⟨finish, handsOut_of_same frame.1 undelivered handed, delivers.trans ?_⟩
          rw [pending_of_same sent consistent frame.1 undelivered, latest, mem_answered, frame.2]
          constructor
          · rintro ⟨pending, (old | ⟨new, -⟩) | late⟩
            · exact ⟨pending, .inl old⟩
            · exact ⟨pending, .inr (new ▸ List.mem_cons_self)⟩
            · exact ⟨pending, .inr (List.mem_cons_of_mem _ late)⟩
          · rintro ⟨pending, old | member⟩
            · exact ⟨pending, .inl (.inl old)⟩
            · refine ⟨pending, ?_⟩
              rcases List.mem_cons.mp member with new | late
              · refine .inl (.inr ⟨new, ?_⟩)
                have made := made_latest consistent pending
                unfold Made Ledger.latest at made ⊢
                rw [frame.1]
                exact made
              · exact .inr late

theorem after_consistent {ledger : Ledger} (consistent : ledger.Consistent found)
    (event : LoaderEvent) : (ledger.after found event).Consistent found := by
  cases event with
  | fetch title path => exact fetch_consistent consistent title path
  | answer generation => exact answer_consistent consistent generation
  | poll => exact poll_consistent consistent
  | wait answers => exact (wait_consistent consistent answers).1

theorem run_consistent (events : List LoaderEvent) : (run found events).Consistent found := by
  induction events using List.reverseRecOn with
  | nil => exact empty_consistent
  | append_singleton earlier event ih =>
      unfold run at ih ⊢
      rw [List.foldl_append]
      exact after_consistent ih event

end Ledger

/-- For whatever the threads read, and every interleaving of fetches, answers, polls and waits: a
poll hands something out exactly when the answer to the latest fetch is in the channel, which is
when that fetch was answered and its answer not handed out yet, and then it hands out that fetch's
own outcome under its own title; a wait does the same for every answer that is sent in time;
nothing but the latest fetch is ever handed out, in the order of the fetches and none of them
twice; and an answer is pending exactly while the latest fetch was not handed out. -/
theorem latest_fetch_delivered_once (found : Nat → Except FileError Program)
    (events : List LoaderEvent) :
    let ledger := Ledger.run found events
    let arrived := ledger.loader.channel.map Completion.generation
    (ledger.loader.poll.1.isSome = true ↔ ledger.latest ∈ arrived) ∧
      (ledger.loader.poll.1.isSome = true ↔
        ledger.latest ∈ ledger.answered ∧ ledger.latest ∉ ledger.delivered) ∧
      ledger.HandsOut found ledger.poll ledger.loader.poll.1 ∧
      (∀ answers,
        let waited := ledger.wait found answers
        ledger.HandsOut found waited.2 waited.1 ∧
          (waited.1.isSome = true ↔
            ledger.fetches ≠ [] ∧ ledger.latest ∉ ledger.delivered ∧
              (ledger.latest ∈ ledger.answered ∨ ledger.latest ∈ answers))) ∧
      ledger.delivered.Pairwise (· < ·) ∧
      (∀ event,
        (ledger.after found event).delivered = ledger.delivered ∨
          (ledger.after found event).delivered = ledger.delivered ++ [ledger.latest]) ∧
      (ledger.loader.pending = true ↔ ledger.fetches ≠ [] ∧ ledger.latest ∉ ledger.delivered) := by
  intro ledger arrived
  have consistent : ledger.Consistent found := Ledger.run_consistent events
  have polled : ledger.loader.poll.1.isSome = ledger.loader.due.isSome := Option.isSome_map
  refine ⟨?_, ?_, Ledger.poll_handsOut consistent, ?_, consistent.increasing, ?_,
    consistent.pending⟩
  · rw [polled, Loader.due_isSome, consistent.numbered]
  · rw [polled]
    exact Ledger.due_iff_ready consistent
  · intro answers
    obtain ⟨-, hands, delivers⟩ := Ledger.wait_consistent consistent answers
    refine ⟨hands, delivers.trans ?_⟩
    rw [consistent.pending, and_assoc]
  · intro event
    cases event with
    | fetch title path => exact .inl rfl
    | answer generation => exact .inl rfl
    | poll => exact Ledger.delivered_of_handsOut (Ledger.poll_handsOut consistent)
    | wait answers =>
        exact Ledger.delivered_of_handsOut (Ledger.wait_consistent consistent answers).2.1

end Chip8Inspector
