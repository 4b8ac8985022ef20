import Chip8Inspector.Proofs.KeyMirror

/-!
# What the strokes on a keyboard do

A stroke on a terminal's keyboard becomes at most one command. Controls come of presses only. The
keys of the keypad are told by the strokes alone: by the last one about a key, by whether any key
was let go before it, and by the frames that passed before the first time that one was.
-/

namespace Chip8Inspector

set_option autoImplicit false

namespace Command

/-- Everything but the keys of the keypad. -/
def isControl : Command → Bool
  | .keyDown _ => false
  | .keyUp _ => false
  | _ => true

end Command

namespace KeyStroke

/-- The keypad key that a stroke is about, whatever else is held down. -/
def slot? (stroke : KeyStroke) : Option (Fin 16) :=
  match stroke.code with
  | .char c => Keypad.slotOfChar? c
  | _ => none

/-- Whether some character is let go. -/
def isRelease (stroke : KeyStroke) : Bool :=
  match stroke.kind, stroke.code with
  | .release, .char _ => true
  | _, _ => false

/-- A press of Ctrl and `c`, which is not for the keypad although `c` has a key there. -/
def isInterrupt (stroke : KeyStroke) : Bool :=
  stroke.kind == .press && stroke.code == .char 'c' && stroke.modifiers.control

/-- The control that a key stands for. -/
def controlOf (code : KeyCode) (modifiers : Modifiers) : Option Command :=
  match code with
  | .char ' ' => some .togglePause
  | .char 'n' => some .step
  | .char 'c' => if modifiers.control then some .quit else none
  | .up => some .selectPrevious
  | .down => some .selectNext
  | .enter => some .loadSelected
  | .escape => some .quit
  | _ => none

/-- What a stroke controls: only a press controls anything. -/
def control? (stroke : KeyStroke) : Option Command :=
  if stroke.kind = .press then controlOf stroke.code stroke.modifiers else none

end KeyStroke

/-- What reaches an inspector whose commands come from a keyboard. -/
inductive HostInput where
  | stroke (stroke : KeyStroke)
  /-- A tick, a file that arrives, or anything else that is no command. -/
  | event (event : InspectorEvent) (uncommanded : ∀ command, event ≠ .command command)

def InspectorEvent.command? : InspectorEvent → Option Command
  | .command asked => some asked
  | _ => none

namespace HostInput

def event? : HostInput → Option InspectorEvent
  | .stroke key => key.command?.map .command
  | .event other _ => some other

def control? : HostInput → Option Command
  | .stroke key => key.control?
  | .event _ _ => none

def slot? : HostInput → Option (Fin 16)
  | .stroke key => key.slot?
  | .event _ _ => none

def isRelease : HostInput → Bool
  | .stroke key => key.isRelease
  | .event _ _ => false

def isTick : HostInput → Bool
  | .event .tick _ => true
  | _ => false

/-- What the keypad is told. -/
def call? (input : HostInput) : Option KeypadCall :=
  input.event?.bind InspectorEvent.keypadCall?

end HostInput

theorem Keypad.slot_singleton (c : Char) : slot? (String.singleton c) = slotOfChar? c := by
  simp [slot?]

namespace KeyStroke

/-- What a key tells the keypad when it goes down. -/
def typed? : KeyCode → Option Command
  | .char c => some (.keyDown (String.singleton c))
  | _ => none

/-- A press is for the keypad if its key controls nothing. -/
theorem command_press (code : KeyCode) (modifiers : Modifiers) :
    command? ⟨code, .press, modifiers⟩ = (controlOf code modifiers).or (typed? code) := by
  unfold controlOf
  split
  case h_3 => rcases modifiers with ⟨shift, _ | _, alt⟩ <;> rfl
  case h_8 => cases code <;> simp_all [command?, pressedChar, typed?]
  all_goals rfl

theorem command_repeated (c : Char) (modifiers : Modifiers) :
    command? ⟨.char c, .repeated, modifiers⟩ =
      if (Keypad.slotOfChar? c).isSome then some (.keyDown (String.singleton c)) else none :=
  rfl

theorem controlOf_isControl {code : KeyCode} {modifiers : Modifiers} {control : Command}
    (controls : controlOf code modifiers = some control) : control.isControl = true := by
  unfold controlOf at controls
  split at controls <;> grind [Command.isControl]

theorem controls (stroke : KeyStroke) :
    stroke.command?.filter Command.isControl = stroke.control? := by
  rcases stroke with ⟨code, kind, modifiers⟩
  cases kind with
  | press =>
      rw [command_press]
      simp only [control?, if_true]
      cases found : controlOf code modifiers with
      | none => cases code <;> rfl
      | some control => simp [controlOf_isControl found]
  | repeated =>
      cases code with
      | char c =>
          rw [command_repeated]
          split <;> rfl
      | _ => rfl
  | release => cases code <;> rfl

theorem controlOf_slot {c : Char} {key : Fin 16} (mapped : Keypad.slotOfChar? c = some key)
    (modifiers : Modifiers) :
    controlOf (.char c) modifiers =
      if c = 'c' ∧ modifiers.control = true then some .quit else none := by
  by_cases ctrl : c = 'c'
  · subst ctrl
    simp [controlOf]
  · have blank : Keypad.slotOfChar? ' ' = none := by decide +kernel
    have step : Keypad.slotOfChar? 'n' = none := by decide +kernel
    have notBlank : c ≠ ' ' := by
      intro same
      rw [same, blank] at mapped
      cases mapped
    have notStep : c ≠ 'n' := by
      intro same
      rw [same, step] at mapped
      cases mapped
    simp [controlOf, ctrl, notBlank, notStep]

/-- What is no control is about a character, and lets it go if the stroke does. -/
theorem key_of_command {stroke : KeyStroke} {command : Command}
    (asked : stroke.command? = some command) (noControl : command.isControl = false) :
    ∃ c, stroke.code = .char c ∧
      command = if stroke.kind = .release then .keyUp (String.singleton c)
        else .keyDown (String.singleton c) := by
  rcases stroke with ⟨code, kind, modifiers⟩
  cases kind with
  | press =>
      rw [command_press] at asked
      cases found : controlOf code modifiers with
      | some control =>
          rw [found] at asked
          cases asked
          exact absurd (controlOf_isControl found) (by simp [noControl])
      | none =>
          rw [found] at asked
          cases code with
          | char c =>
              cases asked
              exact ⟨c, rfl, rfl⟩
          | _ => cases asked
  | repeated =>
      cases code with
      | char c =>
          rw [command_repeated] at asked
          split at asked
          · cases asked
            exact ⟨c, rfl, rfl⟩
          · cases asked
      | _ => cases asked
  | release =>
      cases code with
      | char c =>
          cases asked
          exact ⟨c, rfl, rfl⟩
      | _ => cases asked

end KeyStroke

namespace HostInput

open KeypadCall

/-- What a stroke tells the keypad is about its character, and a release exactly if it is one. -/
theorem call_of_stroke {stroke : KeyStroke} {call : KeypadCall}
    (told : (HostInput.stroke stroke).call? = some call) :
    ∃ c, stroke.code = .char c ∧
      call = if stroke.kind = .release then .up (String.singleton c)
        else .down (String.singleton c) := by
  obtain ⟨event, asked, heard⟩ := Option.bind_eq_some_iff.mp told
  obtain ⟨command, commanded, rfl⟩ := Option.map_eq_some_iff.mp asked
  have noControl : command.isControl = false := by
    cases command <;> first | rfl | cases heard
  obtain ⟨c, typed, rfl⟩ := KeyStroke.key_of_command commanded noControl
  refine ⟨c, typed, ?_⟩
  split at heard <;> cases heard <;> simp_all

theorem call_isReport (input : HostInput) : input.call?.any isReport = input.isRelease := by
  cases input with
  | event other uncommanded =>
      cases other with
      | command asked => exact absurd rfl (uncommanded asked)
      | _ => rfl
  | stroke key =>
      rcases key with ⟨code, kind, modifiers⟩
      cases kind with
      | release => cases code <;> rfl
      | _ =>
          cases told : (HostInput.stroke _).call? with
          | none => rfl
          | some call =>
              obtain ⟨c, -, rfl⟩ := call_of_stroke told
              rfl

theorem call_tick (input : HostInput) : input.call? = some .tick ↔ input.isTick = true := by
  cases input with
  | event other uncommanded =>
      cases other with
      | command asked => exact absurd rfl (uncommanded asked)
      | tick => exact iff_of_true rfl rfl
      | _ => exact iff_of_false nofun nofun
  | stroke key =>
      refine iff_of_false ?_ nofun
      intro told
      obtain ⟨c, -, same⟩ := call_of_stroke told
      split at same <;> cases same

/-- What the keypad is told of a key comes of a stroke about that key. -/
theorem slot_of_call {input : HostInput} {call : KeypadCall} (told : input.call? = some call)
    {key : Fin 16} (about : call.presses key = true ∨ call.releases key = true) :
    input.slot? = some key := by
  cases input with
  | event other uncommanded =>
      cases other with
      | command asked => exact absurd rfl (uncommanded asked)
      | tick =>
          cases told
          rcases about with press | release
          · cases press
          · cases release
      | _ => cases told
  | stroke key =>
      obtain ⟨c, typed, rfl⟩ := call_of_stroke told
      simp only [slot?, KeyStroke.slot?, typed]
      split at about <;> simpa [presses, releases, Keypad.slot_singleton] using about

/-- A character of the keypad that is let go is let go on the keypad. -/
theorem call_of_release {stroke : KeyStroke} {key : Fin 16} (about : stroke.slot? = some key)
    (released : stroke.kind = .release) :
    ∃ name, (HostInput.stroke stroke).call? = some (.up name) ∧ Keypad.slot? name = some key := by
  rcases stroke with ⟨code, kind, modifiers⟩
  cases released
  cases code with
  | char c => exact ⟨String.singleton c, rfl, (Keypad.slot_singleton c).trans about⟩
  | _ => cases about

/-- One that is pressed or repeated goes down there, unless its press interrupts. -/
theorem call_of_press {stroke : KeyStroke} {key : Fin 16} (about : stroke.slot? = some key)
    (held : stroke.kind ≠ .release) (typed : stroke.isInterrupt = false) :
    ∃ name, (HostInput.stroke stroke).call? = some (.down name) ∧
      Keypad.slot? name = some key := by
  rcases stroke with ⟨code, kind, modifiers⟩
  cases code with
  | char c =>
      have mapped : Keypad.slotOfChar? c = some key := about
      refine ⟨String.singleton c, ?_, (Keypad.slot_singleton c).trans mapped⟩
      cases kind with
      | release => exact absurd rfl held
      | repeated =>
          simp [call?, event?, KeyStroke.command_repeated, mapped, InspectorEvent.keypadCall?]
      | press =>
          have plain : ¬(c = 'c' ∧ modifiers.control = true) := by
            simpa [KeyStroke.isInterrupt] using typed
          simp [call?, event?, KeyStroke.command_press, KeyStroke.controlOf_slot mapped, plain,
            KeyStroke.typed?, InspectorEvent.keypadCall?]
  | _ => cases about

theorem calls_report (inputs : List HostInput) :
    (inputs.filterMap call?).any isReport = inputs.any isRelease := by
  induction inputs with
  | nil => rfl
  | cons input later ih =>
      rw [List.filterMap_cons, List.any_cons, ← call_isReport, ← ih]
      cases input.call? <;> rfl

theorem calls_frames (inputs : List HostInput) :
    Keypad.framesUnreported (inputs.filterMap call?) =
      (inputs.takeWhile fun input => !input.isRelease).countP isTick := by
  induction inputs with
  | nil => rfl
  | cons input later ih =>
      have reported := call_isReport input
      have ticked := call_tick input
      rw [List.filterMap_cons]
      cases told : input.call? with
      | none =>
          rw [told] at reported ticked
          simp [← reported, ← ticked, ih]
      | some call =>
          rw [told] at reported ticked
          cases report : call.isReport with
          | true => simp [Keypad.framesUnreported_cons, ← reported, report]
          | false =>
              simp [Keypad.framesUnreported_cons, ← reported, report, List.countP_cons, ih,
                ← ticked]

theorem control_of_event (input : HostInput) :
    (input.event?.bind InspectorEvent.command?).filter Command.isControl = input.control? := by
  cases input with
  | event other uncommanded =>
      cases other with
      | command asked => exact absurd rfl (uncommanded asked)
      | _ => rfl
  | stroke key =>
      refine Eq.trans ?_ key.controls
      cases asked : key.command? <;> simp [event?, asked, InspectorEvent.command?]

theorem controls (inputs : List HostInput) :
    ((inputs.filterMap event?).filterMap InspectorEvent.command?).filter Command.isControl =
      inputs.filterMap control? := by
  rw [List.filterMap_filterMap, List.filter_filterMap]
  exact List.filterMap_congr fun input _ => control_of_event input

section Live

variable {M : Type} [Machine M] (machine : M) (settings : Settings) (threshold : Log.Threshold)

theorem live_keypad (inputs : List HostInput) :
    ((Inspector.make machine settings threshold).live (inputs.filterMap event?)).keypad =
      (Keypad.idle settings.holdFrames).after (inputs.filterMap call?) := by
  rw [Inspector.live_keypad, List.filterMap_filterMap]
  rfl

/-- The last stroke about a key tells whether it is down, by what that stroke tells the keypad. -/
theorem last_stroke (earlier : List HostInput) {last : KeyStroke} {later : List HostInput}
    {key : Fin 16} (latest : ∀ input ∈ later, input.slot? ≠ some key) {call : KeypadCall}
    (told : (HostInput.stroke last).call? = some call)
    (about : call.presses key = true ∨ call.releases key = true) :
    ((Inspector.make machine settings threshold).live
        ((earlier ++ .stroke last :: later).filterMap event?)).keypad.pressed.get key = true ↔
      call.presses key = true ∧ (earlier.any isRelease = true ∨
        (later.takeWhile fun input => !input.isRelease).countP isTick <
          max settings.holdFrames 1) := by
  have unmentioned : ∀ other ∈ later.filterMap call?,
      other.presses key = false ∧ other.releases key = false := by
    intro other member
    obtain ⟨input, behind, heard⟩ := List.mem_filterMap.mp member
    have silent := fun mentions => latest input behind (slot_of_call heard mentions)
    simpa using silent
  rw [live_keypad, List.filterMap_append, List.filterMap_cons, told,
    Keypad.mentioned_pressed settings.holdFrames about unmentioned, Keypad.Lasts, calls_report,
    calls_frames]

end Live

end HostInput

/-- For any machine, any settings, and all strokes with anything but other commands between them:
the controls that an inspector is asked for are those of the presses among the strokes, each once
and in their order. Let a stroke be the last one about some key of the keypad. If it lets the key
go then the key is up, and the machine was told so if it was told anything of that key. If it does
not, and is not the press of Ctrl and `c`, then the key is down at the end exactly when a character
was let go before that stroke, or fewer frames than the hold, counted as at least one, passed
between the stroke and the first time that one was let go, or the end if there is none. -/
theorem strokes_control_and_hold {M : Type} [Machine M] (machine : M) (settings : Settings)
    (threshold : Log.Threshold) (inputs : List HostInput) :
    let events := inputs.filterMap HostInput.event?
    let live := (Inspector.make machine settings threshold).live events
    let heard := overhearing machine settings threshold events
    heard.through Overheard.machine = live ∧
      (events.filterMap InspectorEvent.command?).filter Command.isControl =
        inputs.filterMap HostInput.control? ∧
      ∀ (key : Fin 16) (earlier : List HostInput) (last : KeyStroke) (later : List HostInput),
        inputs = earlier ++ .stroke last :: later → last.slot? = some key →
        (∀ input ∈ later, input.slot? ≠ some key) →
          (last.kind = .release → live.keypad.pressed.get key = false ∧
            ∀ down, (turns key heard.machine.calls).getLast? = some down → down = false) ∧
          (last.kind ≠ .release → last.isInterrupt = false →
            (live.keypad.pressed.get key = true ↔ earlier.any HostInput.isRelease = true ∨
              (later.takeWhile fun input => !input.isRelease).countP HostInput.isTick <
                max settings.holdFrames 1)) := by
  intro events live heard
  refine ⟨overhearing_seen machine settings threshold events, HostInput.controls inputs, ?_⟩
  rintro key earlier last later rfl about latest
  constructor
  · intro released
    obtain ⟨name, told, mapped⟩ := HostInput.call_of_release about released
    have state := HostInput.last_stroke machine settings threshold earlier latest told
      (.inr (beq_iff_eq.mpr mapped))
    have up : live.keypad.pressed.get key = false := by
      rw [Bool.eq_false_iff, ne_eq, state]
      exact fun pressed => Bool.false_ne_true pressed.1
    refine ⟨up, ?_⟩
    intro down turned
    have mirrored := (overhearing_mirrors machine settings threshold events).pressed key
    rw [turned] at mirrored
    exact mirrored.symm.trans up
  · intro held typed
    obtain ⟨name, told, mapped⟩ := HostInput.call_of_press about held typed
    have press : (KeypadCall.down name).presses key = true := beq_iff_eq.mpr mapped
    have state := HostInput.last_stroke machine settings threshold earlier latest told
      (.inl press)
    exact state.trans (and_iff_right press)

end Chip8Inspector
