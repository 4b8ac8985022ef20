import Chip8Inspector.Proofs.WalkerHistory

/-!
# The program counter never leaves the program

A walker that carries a program is always at an address inside it, or at the start of the program
area. Since the room for programs ends long before memory does, the word at the program counter can
be read in every state, and a step is refused only for want of a program.
-/

namespace Chip8Inspector

set_option autoImplicit false

namespace Machine

variable {M : Type} [Machine M]

/-- The program of a call that offers one, if the machine takes it. -/
def granted? (machine : M) : MachineCall → Option Program
  | .load program =>
      match (Machine.load machine program).1 with
      | .ok () => some program
      | .error _ => none
  | _ => none

/-- The programs that a machine takes in a row of calls, oldest first. -/
def grants (machine : M) : List MachineCall → List Program
  | [] => []
  | call :: later => (granted? machine call).toList ++ grants (undergo machine call) later

end Machine

namespace Walker

theorem granted_carried {walker : Walker} {program : Option Program}
    (carries : walker.Carries program) (call : MachineCall) :
    (Machine.granted? walker call).or program = carriedAfter program call := by
  cases call with
  | load bytes =>
      simp only [Machine.granted?, carriedAfter]
      by_cases fits : bytes.size ≤ Memory.capacity
      · rw [load_granted (load_fits carries fits), if_pos fits]
        rfl
      · rw [load_refused (walker.load_too_large (Nat.lt_of_not_le fits)), if_neg fits]
        rfl
  | _ => rfl

/-- A walker carries the last program that it took. -/
theorem grants_carried {walker : Walker} {program : Option Program}
    (carries : walker.Carries program) (calls : List MachineCall) :
    (Machine.grants walker calls).getLast?.or program = carriedThrough program calls := by
  induction calls generalizing walker program with
  | nil => rfl
  | cons call later ih =>
      have only : (Machine.granted? walker call).toList.getLast? =
          Machine.granted? walker call := by
        cases Machine.granted? walker call <;> rfl
      rw [Machine.grants, List.getLast?_append, only, Option.or_assoc,
        granted_carried carries call]
      exact ih (undergo_carries carries call)

theorem fresh_grants (calls : List MachineCall) :
    (Machine.replay fresh calls).Carries (Machine.grants fresh calls).getLast? := by
  have carries := replay_carries fresh_carries calls
  rw [← grants_carried fresh_carries calls, Option.or_none] at carries
  exact carries

theorem execute_below (walker : Walker) (programEnd : Nat) (instruction : Instruction) :
    (walker.execute programEnd instruction).memory.SameBelowDisplay walker.memory := by
  obtain ⟨memory, index, registers, delay, sound, below, -, changed⟩ :=
    walker.perform_changes instruction
  unfold execute
  rw [changed]
  exact below

theorem advance_below (walker : Walker) :
    (Machine.advance walker).2.memory.SameBelowDisplay walker.memory := by
  cases stepped : walker.advance with
  | error cause =>
      rw [advance_refused stepped]
      exact fun _ _ => rfl
  | ok advanced =>
      obtain ⟨programEnd, word, -, -, rfl⟩ := advance_ok stepped
      rw [advance_granted stepped]
      exact execute_below walker programEnd _

theorem steps_below (walker : Walker) (steps : Nat) :
    (Machine.replay walker (List.replicate steps .advance)).memory.SameBelowDisplay
      walker.memory := by
  induction steps generalizing walker with
  | zero => exact fun _ _ => rfl
  | succ steps ih =>
      have first := advance_below walker
      exact (ih (Machine.advance walker).2).trans first

theorem advance_answer {walker : Walker} {program : Option Program}
    (carries : walker.Carries program) :
    (Machine.advance walker).1 = if program = none then .error .noProgram else .ok () := by
  cases program with
  | none =>
      have refused : walker.advance = .error .noProgram := by
        have absent : walker.programEnd = none := carries.programEnd
        unfold advance
        rw [absent]
      rw [advance_refused refused]
      rfl
  | some bytes =>
      obtain ⟨advanced, granted⟩ := advance_succeeds carries
      rw [advance_granted granted]
      rfl

/-- Whatever a new walker went through, with any programs, taken or not: its program counter is at
the start of the program area or inside the program that it took last, its index register has
twelve bits, the two bytes at the program counter are inside memory, a step is refused exactly as
long as no program was taken, and for want of a program; and no number of steps changes a byte below
the display page. -/
theorem counter_stays_in_program (calls : List MachineCall) :
    let walker := Machine.replay fresh calls
    let granted := Machine.grants fresh calls
    let counter := walker.programCounter.toNat
    (counter = 0x200 ∨
        ∃ program, granted.getLast? = some program ∧ 0x200 ≤ counter ∧
          counter < 0x200 + program.size) ∧
      walker.indexRegister.toNat ≤ 0xfff ∧
      counter + 1 < Memory.size ∧
      (Machine.advance walker).1 =
        (if granted = [] then .error .noProgram else .ok ()) ∧
      ∀ steps, (Machine.replay walker (List.replicate steps .advance)).memory.SameBelowDisplay
        walker.memory := by
  intro walker granted counter
  have carries : walker.Carries granted.getLast? := fresh_grants calls
  refine ⟨?_, Nat.le_of_lt_succ carries.index, carries_inside carries, ?_, walker.steps_below⟩
  · rcases carries.counter with start | ⟨low, high⟩
    · exact .inl start
    · cases last : granted.getLast? with
      | none =>
          rw [last] at high
          exact absurd high (Nat.not_lt.mpr low)
      | some program =>
          rw [last] at high
          exact .inr ⟨program, rfl, low, high⟩
  · rw [advance_answer carries]
    simp only [List.getLast?_eq_none_iff]

end Walker

end Chip8Inspector
