import Chip8Inspector.Machine.Scripted
import Chip8Inspector.Proofs.MemoryContents
import Chip8Inspector.Proofs.WalkerAnswers

/-!
# What a walker has left of its past

A walker carries the program that it took last: below the display page its memory is new memory
with that program in it, and its program counter stays where the program is. Steps keep this, and
a program that the walker takes replaces everything but the keys. So two walkers that take the same
program can be told apart by their keys only, whatever they went through before.
-/

namespace Chip8Inspector

set_option autoImplicit false

namespace Machine

variable {M : Type} [Machine M]

def undergo (machine : M) : MachineCall → M
  | .advance => (Machine.advance machine).2
  | .snapshot window => (Machine.snapshot machine window).2
  | .load program => (Machine.load machine program).2
  | .keyDown key => Machine.keyDown machine key
  | .keyUp key => Machine.keyUp machine key

def replay (machine : M) (calls : List MachineCall) : M :=
  calls.foldl undergo machine

/-- Everything that can be learned from a machine as it is: what it would answer, and what its
display shows. -/
structure Outlook where
  advance : Except MachineError Unit
  load : Program → Except MachineError Unit
  snapshot : Window → Except MachineError Snapshot
  screen : String

def outlook (machine : M) : Outlook where
  advance := (Machine.advance machine).1
  load program := (Machine.load machine program).1
  snapshot window := (Machine.snapshot machine window).1
  screen := Machine.screen machine

end Machine

namespace Walker

/-- The walker with other keys down. -/
def withKeys (walker : Walker) (keys : Vector Bool 16) : Walker :=
  { walker with keys := keys }

/-- A new walker that was just given its first program. -/
def given (program : Program) : Walker :=
  { fresh with
    memory := .holding program
    programEnd := some (Memory.programStart + program.size) }

theorem advance_ok {walker advanced : Walker} (granted : walker.advance = .ok advanced) :
    ∃ programEnd word, walker.programEnd = some programEnd ∧
      walker.memory.word? walker.programCounter.toNat = some word ∧
      advanced = walker.execute programEnd (Instruction.decode word) := by
  unfold advance at granted
  split at granted
  · cases granted
  · next programEnd known =>
      split at granted
      · cases granted
      · next word read =>
          cases granted
          exact ⟨programEnd, word, known, read, rfl⟩

theorem load_ok {walker : Walker} {program : Program} {memory : Memory}
    (taken : walker.memory.load program = .ok memory) :
    walker.load program = .ok
      { fresh with
        memory := memory
        programEnd := some (Memory.programStart + program.size)
        keys := walker.keys } := by
  unfold load
  rw [taken]
  rfl

theorem load_error {walker : Walker} {program : Program} {cause : MachineError}
    (refused : walker.memory.load program = .error cause) : walker.load program = .error cause := by
  unfold load
  rw [refused]

theorem draw_eq (walker : Walker) (x y : Register) (rows : Fin 16) :
    let drawn := walker.memory.flipAll
      (spritePixels (walker.register x).toNat (walker.register y).toNat (walker.sprite rows.val))
    walker.draw x y rows =
      { walker with
        memory := drawn.1
        registers := walker.registers.set Register.flag (if drawn.2 then 1 else 0) } :=
  rfl

/-- All that an instruction can do. Those that write to memory write to the display page, and the
one that sets the index register has twelve bits for an address. -/
theorem perform_changes (walker : Walker) (instruction : Instruction) :
    ∃ memory index registers delay sound,
      memory.SameBelowDisplay walker.memory ∧
        (index = walker.indexRegister ∨ index.toNat < Memory.size) ∧
        walker.perform instruction =
          { walker with
            memory := memory
            indexRegister := index
            registers := registers
            delayTimer := delay
            soundTimer := sound } := by
  have same : walker.memory.SameBelowDisplay walker.memory := fun _ _ => rfl
  cases instruction with
  | clear => exact ⟨_, _, _, _, _, walker.memory.clearDisplay_below, .inl rfl, rfl⟩
  | draw x y rows =>
      exact ⟨_, _, _, _, _, walker.memory.flipAll_below _, .inl rfl, walker.draw_eq x y rows⟩
  | loadIndex address =>
      have bound : (UInt16.ofNat address.val).toNat < Memory.size := by
        rw [UInt16.toNat_ofNat']
        exact Nat.lt_of_le_of_lt (Nat.mod_le _ _) address.isLt
      exact ⟨_, _, _, _, _, same, .inr bound, rfl⟩
  | _ => exact ⟨_, _, _, _, _, same, .inl rfl, rfl⟩

theorem execute_counter (walker : Walker) (programEnd : Nat) (instruction : Instruction) :
    (walker.execute programEnd instruction).programCounter =
      intoProgram programEnd (target walker.programCounter instruction) :=
  rfl

theorem intoProgram_bounds (programEnd : Nat) (address : UInt16) :
    let counter := (intoProgram programEnd address).toNat
    counter = Memory.programStart ∨ Memory.programStart ≤ counter ∧ counter < programEnd := by
  unfold intoProgram
  split
  · exact .inl rfl
  · next inside => exact .inr (by omega)

/-- The walker has taken `program` and no other since, or, if there is none, no program at all. -/
structure Carries (walker : Walker) (program : Option Program) : Prop where
  fits : (program.getD #[]).size ≤ Memory.capacity
  memory : walker.memory.SameBelowDisplay (.holding (program.getD #[]))
  programEnd : walker.programEnd = program.map fun bytes => Memory.programStart + bytes.size
  counter : walker.programCounter.toNat = Memory.programStart ∨
    Memory.programStart ≤ walker.programCounter.toNat ∧
      walker.programCounter.toNat < Memory.programStart + (program.getD #[]).size
  index : walker.indexRegister.toNat < Memory.size

theorem fresh_carries : fresh.Carries none where
  fits := Nat.zero_le _
  memory := by
    show Memory.initial.SameBelowDisplay (.holding #[])
    rw [Memory.holding_nothing]
    exact fun _ _ => rfl
  programEnd := rfl
  counter := .inl rfl
  index := by decide

theorem execute_carries {walker : Walker} {program : Program}
    (carries : walker.Carries (some program)) (instruction : Instruction) :
    (walker.execute (Memory.programStart + program.size) instruction).Carries
      (some program) := by
  obtain ⟨memory, index, registers, delay, sound, below, inside, changed⟩ :=
    walker.perform_changes instruction
  unfold execute
  rw [changed]
  constructor
  · exact carries.fits
  · exact below.trans carries.memory
  · exact carries.programEnd
  · exact intoProgram_bounds _ _
  · exact inside.elim (fun kept => kept ▸ carries.index) id

theorem advance_carries {walker advanced : Walker} {program : Option Program}
    (carries : walker.Carries program) (granted : walker.advance = .ok advanced) :
    advanced.Carries program := by
  obtain ⟨programEnd, word, known, -, rfl⟩ := advance_ok granted
  cases program with
  | none => cases carries.programEnd.symm.trans known
  | some bytes =>
      cases carries.programEnd.symm.trans known
      exact execute_carries carries _

/-- What the walker was before shows in its keys alone. -/
theorem load_fits {walker : Walker} {earlier : Option Program} {program : Program}
    (carries : walker.Carries earlier) (fits : program.size ≤ Memory.capacity) :
    walker.load program = .ok ((given program).withKeys walker.keys) :=
  load_ok (Memory.load_fits carries.memory carries.fits fits)

theorem load_too_large (walker : Walker) {program : Program}
    (large : Memory.capacity < program.size) :
    walker.load program = .error (.programTooLarge program.size Memory.capacity) :=
  load_error (Memory.load_too_large large)

theorem given_carries {program : Program} (fits : program.size ≤ Memory.capacity)
    (keys : Vector Bool 16) : ((given program).withKeys keys).Carries (some program) where
  fits := fits
  memory := fun _ _ => rfl
  programEnd := rfl
  counter := .inl rfl
  index := Nat.zero_lt_succ _

/-- The first step of a program. -/
theorem given_advance {program : Program} (fits : program.size ≤ Memory.capacity)
    (first : 0 < program.size) (second : 1 < program.size) (keys : Vector Bool 16) :
    ((given program).withKeys keys).advance =
      .ok (((given program).withKeys keys).execute (Memory.programStart + program.size)
        (Instruction.decode (wordOfBytes program[0] program[1]))) := by
  have known : ((given program).withKeys keys).programEnd =
    some (Memory.programStart + program.size) := rfl
  have word : ((given program).withKeys keys).memory.word?
      ((given program).withKeys keys).programCounter.toNat =
        some (wordOfBytes program[0] program[1]) :=
    Memory.word_holding fits 0 second
  unfold advance
  rw [known]
  dsimp only
  rw [word]

/-- The keys after one of them was set, if there is one with this number. -/
def keysWith (keys : Vector Bool 16) (key : UInt8) (down : Bool) : Vector Bool 16 :=
  if known : key.toNat < 16 then keys.set key.toNat down else keys

def keysAfter (keys : Vector Bool 16) : MachineCall → Vector Bool 16
  | .keyDown key => keysWith keys key true
  | .keyUp key => keysWith keys key false
  | _ => keys

theorem setKey_eq (walker : Walker) (key : UInt8) (down : Bool) :
    walker.setKey key down = walker.withKeys (keysWith walker.keys key down) := by
  unfold setKey keysWith
  split <;> rfl

theorem setKey_carries {walker : Walker} {program : Option Program}
    (carries : walker.Carries program) (key : UInt8) (down : Bool) :
    (walker.setKey key down).Carries program := by
  rw [setKey_eq]
  exact ⟨carries.fits, carries.memory, carries.programEnd, carries.counter, carries.index⟩

theorem hearAll_carries {walker : Walker} {program : Option Program}
    (carries : walker.Carries program) (edges : List KeyEdge) :
    (Machine.hearAll walker edges).Carries program := by
  induction edges generalizing walker with
  | nil => exact carries
  | cons edge later ih =>
      apply ih
      cases edge with
      | down key => exact setKey_carries carries _ true
      | up key => exact setKey_carries carries _ false

/-- The program that is carried after a call. -/
def carriedAfter (program : Option Program) : MachineCall → Option Program
  | .load bytes => if bytes.size ≤ Memory.capacity then some bytes else program
  | _ => program

def carriedThrough (program : Option Program) (calls : List MachineCall) : Option Program :=
  calls.foldl carriedAfter program

theorem undergo_carries {walker : Walker} {program : Option Program}
    (carries : walker.Carries program) (call : MachineCall) :
    (Machine.undergo walker call).Carries (carriedAfter program call) := by
  cases call with
  | advance =>
      show ((Machine.advance walker).2).Carries program
      cases stepped : walker.advance with
      | error cause => exact (advance_refused stepped).symm ▸ carries
      | ok advanced => exact (advance_granted stepped).symm ▸ advance_carries carries stepped
  | snapshot window => exact carries
  | load bytes =>
      show ((Machine.load walker bytes).2).Carries _
      simp only [carriedAfter]
      by_cases fits : bytes.size ≤ Memory.capacity
      · rw [if_pos fits, load_granted (load_fits carries fits)]
        exact given_carries fits walker.keys
      · rw [if_neg fits, load_refused (walker.load_too_large (Nat.lt_of_not_le fits))]
        exact carries
  | keyDown key => exact setKey_carries carries key true
  | keyUp key => exact setKey_carries carries key false

theorem replay_carries {walker : Walker} {program : Option Program}
    (carries : walker.Carries program) (calls : List MachineCall) :
    (Machine.replay walker calls).Carries (carriedThrough program calls) := by
  induction calls generalizing walker program with
  | nil => exact carries
  | cons call later ih => exact ih (undergo_carries carries call)

/-- A program leaves room behind it, so that the word at the program counter is inside memory. -/
theorem carries_inside {walker : Walker} {program : Option Program}
    (carries : walker.Carries program) : walker.programCounter.toNat + 1 < 4096 := by
  have start : Memory.programStart = 0x200 := rfl
  have room : Memory.capacity = 0xca0 := rfl
  have fits := carries.fits
  have counter := carries.counter
  omega

theorem advance_succeeds {walker : Walker} {program : Program}
    (carries : walker.Carries (some program)) : ∃ advanced, walker.advance = .ok advanced := by
  have known : walker.programEnd = some (Memory.programStart + program.size) := carries.programEnd
  unfold advance Memory.word? Memory.pair?
  rw [known, dif_pos (carries_inside carries)]
  exact ⟨_, rfl⟩

theorem perform_withKeys (walker : Walker) (keys : Vector Bool 16) (instruction : Instruction) :
    (walker.withKeys keys).perform instruction = (walker.perform instruction).withKeys keys := by
  cases instruction with
  | draw x y rows =>
      show (walker.withKeys keys).draw x y rows = (walker.draw x y rows).withKeys keys
      rw [draw_eq, draw_eq]
      rfl
  | _ => rfl

theorem execute_withKeys (walker : Walker) (keys : Vector Bool 16) (programEnd : Nat)
    (instruction : Instruction) :
    (walker.withKeys keys).execute programEnd instruction =
      (walker.execute programEnd instruction).withKeys keys := by
  unfold execute
  rw [perform_withKeys]
  rfl

theorem advance_withKeys (walker : Walker) (keys : Vector Bool 16) :
    (walker.withKeys keys).advance = walker.advance.map fun advanced => advanced.withKeys keys := by
  rcases walker with ⟨memory, programEnd, counter, index, registers, delay, sound, held⟩
  unfold advance
  simp only [execute_withKeys]
  dsimp only [withKeys]
  cases programEnd with
  | none => rfl
  | some programEnd =>
      dsimp only
      cases memory.word? counter.toNat <;> rfl

theorem load_withKeys (walker : Walker) (keys : Vector Bool 16) (program : Program) :
    (walker.withKeys keys).load program =
      (walker.load program).map fun loaded => loaded.withKeys keys := by
  cases taken : walker.memory.load program with
  | error cause =>
      have other : (walker.withKeys keys).memory.load program = .error cause := taken
      rw [load_error taken, load_error other]
      rfl
  | ok memory =>
      have other : (walker.withKeys keys).memory.load program = .ok memory := taken
      rw [load_ok taken, load_ok other]
      rfl

theorem keepingOnError_withKeys (walker : Walker) (keys : Vector Bool 16)
    (outcome : Except MachineError Walker) :
    Machine.keepingOnError (walker.withKeys keys)
        (outcome.map fun changed => changed.withKeys keys) () =
      ((Machine.keepingOnError walker outcome ()).1,
        (Machine.keepingOnError walker outcome ()).2.withKeys keys) := by
  cases outcome <;> rfl

theorem machine_advance_withKeys (walker : Walker) (keys : Vector Bool 16) :
    Machine.advance (walker.withKeys keys) =
      ((Machine.advance walker).1, (Machine.advance walker).2.withKeys keys) := by
  show Machine.keepingOnError (walker.withKeys keys) (walker.withKeys keys).advance () = _
  rw [advance_withKeys]
  exact keepingOnError_withKeys walker keys walker.advance

theorem machine_load_withKeys (walker : Walker) (keys : Vector Bool 16) (program : Program) :
    Machine.load (walker.withKeys keys) program =
      ((Machine.load walker program).1, (Machine.load walker program).2.withKeys keys) := by
  show Machine.keepingOnError (walker.withKeys keys) ((walker.withKeys keys).load program) () = _
  rw [load_withKeys]
  exact keepingOnError_withKeys walker keys (walker.load program)

/-- The keys are in no answer and not on the display. -/
theorem outlook_withKeys (walker : Walker) (keys : Vector Bool 16) :
    Machine.outlook (walker.withKeys keys) = Machine.outlook walker := by
  unfold Machine.outlook
  simp only [machine_advance_withKeys, machine_load_withKeys]
  rfl

theorem undergo_withKeys (walker : Walker) (keys : Vector Bool 16) (call : MachineCall) :
    Machine.undergo (walker.withKeys keys) call =
      (Machine.undergo walker call).withKeys (keysAfter keys call) := by
  cases call with
  | advance => exact congrArg Prod.snd (walker.machine_advance_withKeys keys)
  | snapshot window => rfl
  | load program => exact congrArg Prod.snd (walker.machine_load_withKeys keys program)
  | keyDown key =>
      show (walker.withKeys keys).setKey key true = (walker.setKey key true).withKeys _
      rw [setKey_eq, setKey_eq]
      rfl
  | keyUp key =>
      show (walker.withKeys keys).setKey key false = (walker.setKey key false).withKeys _
      rw [setKey_eq, setKey_eq]
      rfl

/-- What happens to the keys and what happens to all the rest do not depend on each other. -/
theorem replay_withKeys (walker : Walker) (keys : Vector Bool 16) (calls : List MachineCall) :
    Machine.replay (walker.withKeys keys) calls =
      (Machine.replay walker calls).withKeys (calls.foldl keysAfter keys) := by
  induction calls generalizing walker keys with
  | nil => rfl
  | cons call later ih =>
      show Machine.replay (Machine.undergo (walker.withKeys keys) call) later = _
      rw [undergo_withKeys]
      exact ih (Machine.undergo walker call) (keysAfter keys call)

theorem replay_keys (walker : Walker) (calls : List MachineCall) :
    (Machine.replay walker calls).keys = calls.foldl keysAfter walker.keys :=
  congrArg Walker.keys (walker.replay_withKeys walker.keys calls)

/-- Whatever a new walker went through, a program of at most 3232 bytes makes it answer and show
everything as a new walker does that was given this program and the same later calls, while the
keys are those of a walker that was not given the program. A larger program changes nothing. -/
theorem load_erases_history (earlier later : List MachineCall) (program : Program) :
    let walker := Machine.replay fresh earlier
    let (answer, loaded) := Machine.load walker program
    let (_, afresh) := Machine.load fresh program
    if program.size ≤ 3232 then
      answer = .ok () ∧
        Machine.outlook (Machine.replay loaded later) =
          Machine.outlook (Machine.replay afresh later) ∧
        (Machine.replay loaded later).keys = (Machine.replay walker later).keys
    else
      answer = .error (.programTooLarge program.size 3232) ∧ loaded = walker := by
  intro walker
  have carries : walker.Carries (carriedThrough none earlier) :=
    replay_carries fresh_carries earlier
  by_cases fits : program.size ≤ 3232
  · rw [load_granted (load_fits carries fits), load_granted (load_fits fresh_carries fits)]
    dsimp only
    rw [if_pos fits]
    have loaded := (given program).replay_withKeys walker.keys later
    have afresh := (given program).replay_withKeys fresh.keys later
    refine ⟨rfl, ?_, ?_⟩
    · rw [loaded, afresh, outlook_withKeys, outlook_withKeys]
    · rw [loaded, replay_keys walker]
      rfl
  · rw [load_refused (walker.load_too_large (Nat.lt_of_not_le fits))]
    dsimp only
    rw [if_neg fits]
    exact ⟨rfl, rfl⟩

end Walker

end Chip8Inspector
