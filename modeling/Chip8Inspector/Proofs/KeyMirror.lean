import Chip8Inspector.Proofs.KeypadHold
import Chip8Inspector.Proofs.OverheardMachine
import Mathlib.Data.List.Chain
import Mathlib.Data.List.FinRange

/-!
# The keys of the machine mirror the keypad

A keypad tells its machine of every change of a key and of nothing else. So the calls about one
key go down and up in turn, beginning with down, and the last of them tells how the key is on the
keypad. Nothing else that an inspector asks of a machine is about keys.
-/

namespace Chip8Inspector

set_option autoImplicit false

/-- Which way a call turns a key, if it is about that key. -/
def MachineCall.turn? (key : Fin 16) : MachineCall → Option Bool
  | .keyDown other => if other = UInt8.ofNat key.val then some true else none
  | .keyUp other => if other = UInt8.ofNat key.val then some false else none
  | _ => none

def MachineCall.isKey : MachineCall → Bool
  | .keyDown _ => true
  | .keyUp _ => true
  | _ => false

def turns (key : Fin 16) (calls : List MachineCall) : List Bool :=
  calls.filterMap (MachineCall.turn? key)

theorem turns_append (key : Fin 16) (earlier later : List MachineCall) :
    turns key (earlier ++ later) = turns key earlier ++ turns key later :=
  List.filterMap_append

theorem turns_nil (key : Fin 16) : turns key [] = [] :=
  rfl

theorem ofNat_key_injective (left right : Fin 16) :
    UInt8.ofNat left.val = UInt8.ofNat right.val ↔ left = right := by
  constructor
  · intro same
    have values := congrArg UInt8.toNat same
    simp only [UInt8.toNat_ofNat'] at values
    exact Fin.ext (by omega)
  · rintro rfl
    rfl

theorem turns_down (key slot : Fin 16) :
    turns key [KeyEdge.call (.down slot)] = if slot = key then [true] else [] := by
  by_cases same : slot = key <;>
    simp [turns, KeyEdge.call, MachineCall.turn?, ofNat_key_injective, same]

theorem turns_up (key slot : Fin 16) :
    turns key [KeyEdge.call (.up slot)] = if slot = key then [false] else [] := by
  by_cases same : slot = key <;>
    simp [turns, KeyEdge.call, MachineCall.turn?, ofNat_key_injective, same]

/-- Of the keys that go up together, each goes up once. -/
theorem turns_released (key : Fin 16) (goes : Fin 16 → Bool) :
    turns key ((((List.finRange 16).filter goes).map KeyEdge.up).map KeyEdge.call) =
      if goes key then [false] else [] := by
  have only : ∀ slots : List (Fin 16),
      turns key ((slots.map KeyEdge.up).map KeyEdge.call) =
        List.replicate (slots.count key) false := by
    intro slots
    induction slots with
    | nil => rfl
    | cons slot later ih =>
        have split := turns_append key [KeyEdge.call (.up slot)]
          ((later.map KeyEdge.up).map KeyEdge.call)
        rw [turns_up, ih] at split
        refine split.trans ?_
        by_cases same : slot = key <;> simp [same, List.replicate_succ]
  rw [only]
  cases released : goes key with
  | true => rw [List.count_filter released, List.count_finRange]; rfl
  | false =>
      have kept : key ∉ (List.finRange 16).filter goes := by simp [released]
      rw [List.count_eq_zero_of_not_mem kept]
      rfl

namespace Keypad

/-- What the machine hears of a key is how the key has changed. -/
theorem answer_turns (pad : Keypad) (call : KeypadCall) (key : Fin 16) :
    turns key ((pad.answer call).2.map KeyEdge.call) =
      if (pad.answer call).1.pressed.get key = pad.pressed.get key then []
      else [(pad.answer call).1.pressed.get key] := by
  cases call with
  | down name =>
      cases mapped : slot? name with
      | none => simp [answer_down_unmapped pad mapped, turns_nil]
      | some slot =>
          have pressed := (press_key pad slot key).1
          have told : (pad.press slot).2 = if pad.pressed.get slot then [] else [.down slot] := rfl
          rw [answer_down pad mapped, pressed, told]
          by_cases same : slot = key
          · subst same
            cases pad.pressed.get slot <;> simp [turns_down, turns_nil]
          · cases pad.pressed.get slot <;> simp [turns_down, turns_nil, same]
  | up name =>
      cases mapped : slot? name with
      | none => simp [answer_up_unmapped pad mapped, turns_nil]
      | some slot =>
          have released := (release_key { pad with hostReleases := true } slot key).1
          have told : (Keypad.release { pad with hostReleases := true } slot).2 =
              if pad.pressed.get slot then [.up slot] else [] := rfl
          rw [answer_up pad mapped, released, told]
          by_cases same : slot = key
          · subst same
            cases pad.pressed.get slot <;> simp [turns_up, turns_nil]
          · cases pad.pressed.get slot <;> simp [turns_up, turns_nil, same]
  | tick =>
      cases reported : pad.hostReleases with
      | true => simp [tick_trusting reported, turns_nil]
      | false =>
          have told : (pad.answer .tick).2 =
              ((List.finRange 16).filter pad.expires).map .up := by
            simp [answer, tick, reported]
          rw [(tick_counting reported key).1, told, turns_released]
          by_cases expired : pad.expires key = true
          · have down : pad.pressed.get key = true := (Bool.and_eq_true_iff.mp expired).1
            rw [down, expired]
            rfl
          · simp [expired]

end Keypad

/-- What a machine was told of the keys is what the keypad shows of them. -/
structure Mirrors (pad : Keypad) (calls : List MachineCall) : Prop where
  known : ∀ key, .keyDown key ∈ calls ∨ .keyUp key ∈ calls → key < 16
  alternate : ∀ key, (false :: turns key calls).IsChain (· ≠ ·)
  pressed : ∀ key : Fin 16, pad.pressed.get key = (turns key calls).getLast?.getD false

theorem idle_mirrors (holdFrames : Nat) : Mirrors (Keypad.idle holdFrames) [] where
  known := by simp
  alternate := fun _ => List.IsChain.singleton false
  pressed := fun key => Keypad.idle_pressed holdFrames key

theorem quiet_mirrors {pad : Keypad} {calls : List MachineCall} (mirrors : Mirrors pad calls)
    {call : MachineCall} (quiet : call.isKey = false) : Mirrors pad (calls ++ [call]) := by
  have silent : ∀ key, turns key (calls ++ [call]) = turns key calls := by
    intro key
    rw [turns_append]
    cases call with
    | keyDown other => cases quiet
    | keyUp other => cases quiet
    | _ => exact List.append_nil _
  constructor
  · intro key member
    apply mirrors.known key
    cases call <;> simp_all [MachineCall.isKey]
  · exact fun key => (silent key).symm ▸ mirrors.alternate key
  · exact fun key => (silent key).symm ▸ mirrors.pressed key

theorem answer_mirrors {pad : Keypad} {calls : List MachineCall} (mirrors : Mirrors pad calls)
    (call : KeypadCall) :
    Mirrors (pad.answer call).1 (calls ++ (pad.answer call).2.map KeyEdge.call) := by
  have small : ∀ slot : Fin 16, UInt8.ofNat slot.val < 16 := by decide
  have heard : ∀ key, turns key (calls ++ (pad.answer call).2.map KeyEdge.call) =
      turns key calls ++
        if (pad.answer call).1.pressed.get key = pad.pressed.get key then []
        else [(pad.answer call).1.pressed.get key] := by
    intro key
    rw [turns_append, pad.answer_turns]
  constructor
  · intro key told
    simp only [List.mem_append, List.mem_map] at told
    rcases told with (old | ⟨edge, -, new⟩) | (old | ⟨edge, -, new⟩)
    · exact mirrors.known key (.inl old)
    · cases edge <;> cases new
      exact small _
    · exact mirrors.known key (.inr old)
    · cases edge <;> cases new
      exact small _
  · intro key
    rw [heard, ← List.cons_append, List.isChain_append]
    refine ⟨mirrors.alternate key, ?_, ?_⟩
    · split
      · exact List.IsChain.nil
      · exact List.IsChain.singleton _
    · intro last isLast next isNext
      rw [List.getLast?_cons, ← mirrors.pressed] at isLast
      cases isLast
      split at isNext
      · cases isNext
      · next changed =>
          cases isNext
          exact Ne.symm changed
  · intro key
    rw [heard]
    split
    · next same => rw [List.append_nil, same, mirrors.pressed]
    · simp

/-- The call of the keypad that an event brings, if it brings one. -/
def InspectorEvent.keypadCall? : InspectorEvent → Option KeypadCall
  | .command (.keyDown name) => some (.down name)
  | .command (.keyUp name) => some (.up name)
  | .tick => some .tick
  | _ => none

namespace Inspector

variable {M : Type} [Machine M]

theorem after_keypad (inspector : Inspector M) (event : InspectorEvent) :
    (inspector.after event).keypad =
      match event.keypadCall? with
      | none => inspector.keypad
      | some call => (inspector.keypad.answer call).1 := by
  cases event with
  | command command => cases command <;> rfl
  | tick =>
      have same := (takeArrival_bench inspector).2
      show (inspector.takeArrival.keypad.tick).1 = (inspector.keypad.tick).1
      rw [same]
  | wait => exact wait_keypad inspector
  | _ => rfl

/-- The keypad of an inspector gets the keys of the host and the frames, and nothing else. -/
theorem live_keypad (inspector : Inspector M) (events : List InspectorEvent) :
    (inspector.live events).keypad =
      inspector.keypad.after (events.filterMap InspectorEvent.keypadCall?) := by
  induction events generalizing inspector with
  | nil => rfl
  | cons event later ih =>
      refine (ih (inspector.after event)).trans ?_
      rw [after_keypad, List.filterMap_cons]
      cases event.keypadCall? <;> rfl

end Inspector

section Hearing

variable {M : Type} [Machine M]

theorem hearAll_calls (heard : Overheard M) (edges : List KeyEdge) :
    (Machine.hearAll heard edges).calls = heard.calls ++ edges.map KeyEdge.call := by
  rw [hearAll_replay]
  induction edges generalizing heard with
  | nil => exact (List.append_nil _).symm
  | cons edge later ih =>
      refine (ih (Machine.undergo heard edge.call)).trans ?_
      rw [undergo_overheard]
      simp

theorem undergo_mirrors (pad : Keypad) (call : MachineCall) (quiet : call.isKey = false)
    (heard : Overheard M) (mirrors : Mirrors pad heard.calls) :
    Mirrors pad (Machine.undergo heard call).calls := by
  rw [undergo_overheard]
  exact quiet_mirrors mirrors quiet

theorem call_mirrors {pad : Keypad} {bench : Workbench (Overheard M) Gauge}
    (mirrors : Mirrors pad bench.machine.calls) (call : LoopCall) :
    Mirrors pad (bench.call call).machine.calls :=
  Workbench.call_keeps (fun heard : Overheard M => Mirrors pad heard.calls)
    (fun heard window => undergo_mirrors pad (.snapshot window) rfl heard)
    (undergo_mirrors pad .advance rfl) mirrors call

theorem keys_mirror {pad : Keypad} {bench : Workbench (Overheard M) Gauge}
    (mirrors : Mirrors pad bench.machine.calls) (call : KeypadCall) :
    Mirrors (pad.answer call).1 (bench.act (.keys (pad.answer call).2)).machine.calls := by
  have told : (bench.act (.keys (pad.answer call).2)).machine.calls = _ :=
    hearAll_calls bench.machine (pad.answer call).2
  rw [told]
  exact answer_mirrors mirrors call

theorem installs_mirror {pad : Keypad} {bench : Workbench (Overheard M) Gauge}
    (mirrors : Mirrors pad bench.machine.calls)
    (handed : Option (Except LoadError LoadedProgram)) :
    Mirrors pad ((Inspector.installs handed).foldl Workbench.act bench).machine.calls :=
  Workbench.installs_keep (fun heard : Overheard M => Mirrors pad heard.calls)
    (fun heard window => undergo_mirrors pad (.snapshot window) rfl heard)
    (fun heard program => undergo_mirrors pad (.load program) rfl heard) mirrors handed

theorem after_mirrors {inspector : Inspector (Overheard M)}
    (mirrors : Mirrors inspector.keypad inspector.machine.calls) (event : InspectorEvent) :
    Mirrors (inspector.after event).keypad (inspector.after event).machine.calls := by
  have machine : (inspector.after event).machine =
      ((inspector.actsOf event).foldl Workbench.act inspector.bench).machine :=
    congrArg Workbench.machine (Inspector.after_bench inspector event)
  have start : Mirrors inspector.keypad inspector.bench.machine.calls := mirrors
  rw [machine, Inspector.after_keypad]
  cases event with
  | command command =>
      cases command with
      | keyDown name => exact keys_mirror start (.down name)
      | keyUp name => exact keys_mirror start (.up name)
      | togglePause => exact call_mirrors start .togglePause
      | step => exact call_mirrors start .step
      | _ => exact start
  | tick =>
      have installed := installs_mirror start (inspector.handed? .tick)
      unfold Inspector.actsOf
      rw [List.foldl_append]
      exact call_mirrors (keys_mirror installed .tick) .frame
  | wait => exact installs_mirror start (inspector.handed? .wait)
  | _ => exact start

theorem live_mirrors {inspector : Inspector (Overheard M)}
    (mirrors : Mirrors inspector.keypad inspector.machine.calls) (events : List InspectorEvent) :
    Mirrors (inspector.live events).keypad (inspector.live events).machine.calls := by
  induction events generalizing inspector with
  | nil => exact mirrors
  | cons event later ih => exact ih (after_mirrors mirrors event)

end Hearing

namespace Walker

theorem keysWith_key (keys : Vector Bool 16) (other : UInt8) (down : Bool) (key : Fin 16) :
    (keysWith keys other down).get key =
      if other = UInt8.ofNat key.val then down else keys.get key := by
  have value : (UInt8.ofNat key.val).toNat = key.val := by
    rw [UInt8.toNat_ofNat']
    omega
  unfold keysWith
  by_cases inside : other.toNat < 16
  · have named : (⟨other.toNat, inside⟩ : Fin 16) = key ↔ other = UInt8.ofNat key.val := by
      constructor
      · rintro rfl
        exact UInt8.ofNat_toNat.symm
      · intro same
        exact Fin.ext ((congrArg UInt8.toNat same).trans value)
    rw [dif_pos inside]
    refine (Keypad.get_set keys ⟨other.toNat, inside⟩ key down).trans ?_
    simp only [named]
  · have unnamed : other ≠ UInt8.ofNat key.val := by
      rintro rfl
      rw [value] at inside
      exact inside key.isLt
    rw [dif_neg inside, if_neg unnamed]

theorem keysAfter_key (keys : Vector Bool 16) (call : MachineCall) (key : Fin 16) :
    (keysAfter keys call).get key = (call.turn? key).getD (keys.get key) := by
  cases call with
  | keyDown other =>
      refine (keysWith_key keys other true key).trans ?_
      simp only [MachineCall.turn?]
      split <;> rfl
  | keyUp other =>
      refine (keysWith_key keys other false key).trans ?_
      simp only [MachineCall.turn?]
      split <;> rfl
  | _ => rfl

/-- A key of a walker is as the last call about it left it. -/
theorem keys_of_turns (keys : Vector Bool 16) (calls : List MachineCall) (key : Fin 16) :
    (calls.foldl keysAfter keys).get key = (turns key calls).getLast?.getD (keys.get key) := by
  induction calls generalizing keys with
  | nil => rfl
  | cons call later ih =>
      have split := turns_append key [call] later
      have first : turns key [call] = (call.turn? key).toList := by
        unfold turns
        cases turned : call.turn? key <;> simp [turned]
      rw [List.foldl_cons, ih, keysAfter_key]
      show _ = (turns key ([call] ++ later)).getLast?.getD _
      rw [split, first, List.getLast?_append]
      cases (turns key later).getLast? <;> cases call.turn? key <;> rfl

end Walker

section Histories

variable {M : Type} [Machine M]

theorem overhearing_mirrors (machine : M) (settings : Settings) (threshold : Log.Threshold)
    (events : List InspectorEvent) :
    Mirrors ((Inspector.make machine settings threshold).live events).keypad
      (overhearing machine settings threshold events).machine.calls := by
  have mirrors : Mirrors (overhearing machine settings threshold events).keypad
      (overhearing machine settings threshold events).machine.calls :=
    live_mirrors (idle_mirrors settings.holdFrames) events
  have keypad := congrArg Inspector.keypad (overhearing_seen machine settings threshold events)
  exact keypad ▸ mirrors

theorem walked_keys (settings : Settings) (threshold : Log.Threshold)
    (events : List InspectorEvent) :
    let walked := (Inspector.make Walker.fresh settings threshold).live events
    walked.machine.keys = walked.keypad.pressed := by
  intro walked
  have mirrors : Mirrors walked.keypad _ :=
    overhearing_mirrors Walker.fresh settings threshold events
  have machine : _ = walked.machine :=
    congrArg Inspector.machine (overhearing_seen Walker.fresh settings threshold events)
  have replayed : (overhearing Walker.fresh settings threshold events).machine.machine = _ :=
    overheard_replay (Inspector.make { machine := Walker.fresh } settings threshold)
      Walker.fresh rfl events
  rw [← machine]
  apply Vector.ext
  intro index inside
  have last := Walker.keys_of_turns Walker.fresh.keys
    (overhearing Walker.fresh settings threshold events).machine.calls ⟨index, inside⟩
  have up : Walker.fresh.keys.get ⟨index, inside⟩ = false := Vector.getElem_replicate inside
  rw [up, ← mirrors.pressed, ← Walker.replay_keys] at last
  show (overhearing Walker.fresh settings threshold events).machine.machine.keys[index] = _
  rw [replayed]
  exact last

end Histories

/-- For any machine, any settings and everything that can happen to an inspector of it: the
calls about keys that the machine gets are about the sixteen keys, those about one key go down and
up in turn, beginning with down, and the last of them tells whether the key is down on the keypad.
That the machine is overheard changes nothing of all that happens. So the keys of a new walker are
always those of the keypad. -/
theorem machine_keys_mirror_keypad {M : Type} [Machine M] (machine : M) (settings : Settings)
    (threshold : Log.Threshold) (events : List InspectorEvent) :
    let live := (Inspector.make machine settings threshold).live events
    let heard := overhearing machine settings threshold events
    let calls := heard.machine.calls
    let walked := (Inspector.make Walker.fresh settings threshold).live events
    heard.through Overheard.machine = live ∧
      (∀ key, .keyDown key ∈ calls ∨ .keyUp key ∈ calls → key < 16) ∧
      (∀ key, (false :: turns key calls).IsChain (· ≠ ·)) ∧
      (∀ key : Fin 16, live.keypad.pressed.get key = (turns key calls).getLast?.getD false) ∧
      walked.machine.keys = walked.keypad.pressed := by
  intro live heard calls walked
  have mirrors : Mirrors live.keypad calls :=
    overhearing_mirrors machine settings threshold events
  exact ⟨overhearing_seen machine settings threshold events, mirrors.known, mirrors.alternate,
    mirrors.pressed, walked_keys settings threshold events⟩

end Chip8Inspector
