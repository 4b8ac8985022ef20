import Chip8Inspector.Keypad.State
import Mathlib.Data.List.Induction

/-!
# How long a key stays down

Whether a key is down is told by the calls that the keypad got: by the last press of the key, the
releases that the host has reported, and the frames that passed before the first of them. The
keypad itself keeps a countdown for every key instead, and one flag for all of them.
-/

namespace Chip8Inspector

set_option autoImplicit false

/-- What a keypad can be told. Keys are named as the host names them. -/
inductive KeypadCall where
  | down (name : String)
  | up (name : String)
  | tick
  deriving DecidableEq

namespace KeypadCall

def presses (key : Fin 16) : KeypadCall → Bool
  | .down name => Keypad.slot? name == some key
  | _ => false

def releases (key : Fin 16) : KeypadCall → Bool
  | .up name => Keypad.slot? name == some key
  | _ => false

/-- Any report of a release, also of a key that belongs to no slot. -/
def isReport : KeypadCall → Bool
  | .up _ => true
  | _ => false

end KeypadCall

namespace Keypad

open KeypadCall

def answer (pad : Keypad) : KeypadCall → Keypad × List KeyEdge
  | .down name => pad.keyDown name
  | .up name => pad.keyUp name
  | .tick => pad.tick

def after (pad : Keypad) (calls : List KeypadCall) : Keypad :=
  calls.foldl (fun pad call => (pad.answer call).1) pad

/-- The calls up to and behind the last press of a key, if the key was not released after it. -/
structure LastPress (key : Fin 16) (calls earlier later : List KeypadCall) : Prop where
  split : ∃ name, slot? name = some key ∧ calls = earlier ++ .down name :: later
  latest : ∀ call ∈ later, call.presses key = false
  unreleased : ∀ call ∈ later, call.releases key = false

/-- The frames that pass before the first report of a release, or before the end if there is
none. -/
def framesUnreported (calls : List KeypadCall) : Nat :=
  (calls.takeWhile fun call => !call.isReport).count .tick

theorem lastPress_snoc {key : Fin 16} {calls earlier later : List KeypadCall}
    {call : KeypadCall} :
    LastPress key (calls ++ [call]) earlier later ↔
      (call.presses key = true ∧ earlier = calls ∧ later = []) ∨
        (call.presses key = false ∧ call.releases key = false ∧
          ∃ before, later = before ++ [call] ∧ LastPress key calls earlier before) := by
  constructor
  · rintro ⟨⟨name, known, whole⟩, latest, unreleased⟩
    rcases List.eq_nil_or_concat later with rfl | ⟨before, last, rfl⟩
    · obtain ⟨rfl, ends⟩ := List.append_inj' whole rfl
      cases ends
      exact .inl ⟨beq_iff_eq.mpr known, rfl, rfl⟩
    · rw [List.concat_eq_append] at *
      rw [← List.cons_append, ← List.append_assoc] at whole
      obtain ⟨front, ends⟩ := List.append_inj' whole rfl
      cases ends
      have member : call ∈ before ++ [call] := List.mem_append_right _ (List.mem_singleton_self _)
      refine .inr ⟨latest _ member, unreleased _ member, before, rfl, ⟨name, known, front⟩, ?_, ?_⟩
      · exact fun other inside => latest other (List.mem_append_left _ inside)
      · exact fun other inside => unreleased other (List.mem_append_left _ inside)
  · rintro (⟨press, rfl, rfl⟩ | ⟨notPress, notRelease, before, rfl, ⟨name, known, rfl⟩, latest,
      unreleased⟩)
    · cases call with
      | down name => exact ⟨⟨name, beq_iff_eq.mp press, rfl⟩, nofun, nofun⟩
      | up name => cases press
      | tick => cases press
    · refine ⟨⟨name, known, by simp⟩, ?_, ?_⟩
      · intro other member
        rcases List.mem_append.mp member with old | new
        · exact latest other old
        · exact List.mem_singleton.mp new ▸ notPress
      · intro other member
        rcases List.mem_append.mp member with old | new
        · exact unreleased other old
        · exact List.mem_singleton.mp new ▸ notRelease

theorem framesUnreported_cons (call : KeypadCall) (later : List KeypadCall) :
    framesUnreported (call :: later) =
      if call.isReport then 0
      else framesUnreported later + if call = .tick then 1 else 0 := by
  cases call <;> simp [framesUnreported, isReport]

theorem framesUnreported_snoc (calls : List KeypadCall) (call : KeypadCall) :
    framesUnreported (calls ++ [call]) = framesUnreported calls +
      if call = .tick ∧ calls.any isReport = false then 1 else 0 := by
  induction calls with
  | nil => cases call <;> rfl
  | cons first later ih =>
      rw [List.cons_append, framesUnreported_cons, framesUnreported_cons, ih]
      cases first <;> simp [isReport, Nat.add_right_comm]

/-- A press lasts as long as the key is not let go by the frames that pass. A press behind the first
report of a release is not let go by any. -/
def Lasts (holdFrames : Nat) (earlier later : List KeypadCall) : Prop :=
  earlier.any isReport = true ∨ framesUnreported later < max holdFrames 1

/-- What the calls tell about one key of a keypad. -/
structure Tells (holdFrames : Nat) (key : Fin 16) (calls : List KeypadCall) (pad : Keypad) :
    Prop where
  frames : pad.holdFrames = holdFrames
  reported : pad.hostReleases = calls.any isReport
  pressed : pad.pressed.get key = true ↔
    ∃ earlier later, LastPress key calls earlier later ∧ Lasts holdFrames earlier later
  hold : calls.any isReport = false → pad.pressed.get key = true →
    ∀ earlier later, LastPress key calls earlier later →
      pad.hold.get key = holdFrames - framesUnreported later

theorem idle_pressed (holdFrames : Nat) (key : Fin 16) :
    (idle holdFrames).pressed.get key = false :=
  Vector.getElem_replicate key.isLt

theorem idle_tells (holdFrames : Nat) (key : Fin 16) :
    Tells holdFrames key [] (idle holdFrames) where
  frames := rfl
  reported := rfl
  pressed := by
    rw [idle_pressed]
    constructor
    · nofun
    · rintro ⟨earlier, later, ⟨⟨name, -, whole⟩, -, -⟩, -⟩
      simp at whole
  hold := by
    intro _ down
    rw [idle_pressed] at down
    cases down

theorem answer_down_unmapped (pad : Keypad) {name : String} (unmapped : slot? name = none) :
    pad.answer (.down name) = (pad, []) := by
  simp only [answer, keyDown, unmapped]

theorem answer_down (pad : Keypad) {name : String} {slot : Fin 16}
    (mapped : slot? name = some slot) : pad.answer (.down name) = pad.press slot := by
  simp only [answer, keyDown, mapped]

theorem answer_up_unmapped (pad : Keypad) {name : String} (unmapped : slot? name = none) :
    pad.answer (.up name) = ({ pad with hostReleases := true }, []) := by
  simp only [answer, keyUp, unmapped]

theorem answer_up (pad : Keypad) {name : String} {slot : Fin 16}
    (mapped : slot? name = some slot) :
    pad.answer (.up name) = { pad with hostReleases := true }.release slot := by
  simp only [answer, keyUp, mapped]

theorem get_set {α : Type} (keys : Vector α 16) (slot key : Fin 16) (value : α) :
    (keys.set slot.val value slot.isLt).get key = if slot = key then value else keys.get key := by
  by_cases same : slot = key
  · subst same
    rw [if_pos rfl]
    exact Vector.getElem_set_self slot.isLt
  · have apart : slot.val ≠ key.val := fun values => same (Fin.ext values)
    rw [if_neg same]
    exact Vector.getElem_set_ne slot.isLt key.isLt apart

theorem press_key (pad : Keypad) (slot key : Fin 16) :
    (pad.press slot).1.pressed.get key = (slot == key || pad.pressed.get key) ∧
      (pad.press slot).1.hold.get key =
        if slot = key then pad.holdFrames else pad.hold.get key := by
  refine ⟨(get_set pad.pressed slot key true).trans ?_, get_set pad.hold slot key pad.holdFrames⟩
  by_cases same : slot = key <;> simp [same]

theorem release_key (pad : Keypad) (slot key : Fin 16) :
    (pad.release slot).1.pressed.get key = (slot != key && pad.pressed.get key) ∧
      (pad.release slot).1.hold.get key = if slot = key then 0 else pad.hold.get key := by
  refine ⟨(get_set pad.pressed slot key false).trans ?_, get_set pad.hold slot key 0⟩
  by_cases same : slot = key <;> simp [same]

theorem expires_eq (pad : Keypad) (key : Fin 16) :
    pad.expires key = (pad.pressed.get key && decide (pad.hold.get key ≤ 1)) :=
  rfl

theorem tick_trusting {pad : Keypad} (reported : pad.hostReleases = true) :
    pad.answer .tick = (pad, []) := by
  simp only [answer, tick, reported, if_true]

theorem tick_counting {pad : Keypad} (unreported : pad.hostReleases = false) (key : Fin 16) :
    (pad.answer .tick).1.pressed.get key = (pad.pressed.get key && !pad.expires key) ∧
      (pad.answer .tick).1.hold.get key =
        if pad.pressed.get key then pad.hold.get key - 1 else pad.hold.get key := by
  simp only [answer, tick, unreported, Bool.false_eq_true, if_false]
  exact ⟨Vector.getElem_ofFn key.isLt, Vector.getElem_ofFn key.isLt⟩

/-- A call that is not about a key leaves it as it is, unless a frame passes. -/
theorem answer_apart (pad : Keypad) {call : KeypadCall} {key : Fin 16}
    (notPress : call.presses key = false) (notRelease : call.releases key = false)
    (rest : call ≠ .tick) :
    (pad.answer call).1.pressed.get key = pad.pressed.get key ∧
      (pad.answer call).1.hold.get key = pad.hold.get key := by
  cases call with
  | tick => exact absurd rfl rest
  | down name =>
      cases mapped : slot? name with
      | none =>
          rw [answer_down_unmapped pad mapped]
          exact ⟨rfl, rfl⟩
      | some slot =>
          have apart : slot ≠ key := by simpa [presses, mapped] using notPress
          have pressed := press_key pad slot key
          rw [answer_down pad mapped, pressed.1, pressed.2]
          simp [apart]
  | up name =>
      cases mapped : slot? name with
      | none =>
          rw [answer_up_unmapped pad mapped]
          exact ⟨rfl, rfl⟩
      | some slot =>
          have apart : slot ≠ key := by simpa [releases, mapped] using notRelease
          have released := release_key { pad with hostReleases := true } slot key
          rw [answer_up pad mapped, released.1, released.2]
          simp [apart]

theorem answer_frames (pad : Keypad) (call : KeypadCall) :
    (pad.answer call).1.holdFrames = pad.holdFrames ∧
      (pad.answer call).1.hostReleases = (pad.hostReleases || call.isReport) := by
  cases call with
  | down name =>
      simp only [answer, keyDown, isReport, Bool.or_false]
      split <;> exact ⟨rfl, rfl⟩
  | up name =>
      simp only [answer, keyUp, isReport, Bool.or_true]
      split <;> exact ⟨rfl, rfl⟩
  | tick =>
      simp only [answer, tick, isReport, Bool.or_false]
      split <;> exact ⟨rfl, rfl⟩

variable {holdFrames : Nat} {key : Fin 16} {calls : List KeypadCall} {pad : Keypad}

theorem press_tells (tells : Tells holdFrames key calls pad) {name : String}
    (mapped : slot? name = some key) :
    Tells holdFrames key (calls ++ [.down name]) (pad.answer (.down name)).1 := by
  have isPress : (KeypadCall.down name).presses key = true := beq_iff_eq.mpr mapped
  have pressed := press_key pad key key
  rw [answer_down pad mapped]
  constructor
  · exact tells.frames
  · simp only [List.any_append, List.any_cons, List.any_nil, isReport, Bool.or_false]
    exact tells.reported
  · rw [pressed.1]
    refine iff_of_true (by simp) ⟨calls, [], lastPress_snoc.mpr (.inl ⟨isPress, rfl, rfl⟩), ?_⟩
    exact .inr (Nat.lt_of_lt_of_le Nat.zero_lt_one (Nat.le_max_right _ _))
  · intro _ _ earlier later last
    rcases lastPress_snoc.mp last with ⟨-, -, rfl⟩ | ⟨notPress, -⟩
    · rw [pressed.2, if_pos rfl, tells.frames]
      rfl
    · exact absurd (isPress.symm.trans notPress) (by decide)

theorem release_tells (tells : Tells holdFrames key calls pad) {name : String}
    (mapped : slot? name = some key) :
    Tells holdFrames key (calls ++ [.up name]) (pad.answer (.up name)).1 := by
  have isRelease : (KeypadCall.up name).releases key = true := beq_iff_eq.mpr mapped
  have released := release_key { pad with hostReleases := true } key key
  rw [answer_up pad mapped]
  constructor
  · exact tells.frames
  · simp only [List.any_append, List.any_cons, isReport, Bool.true_or, Bool.or_true]
    rfl
  · rw [released.1]
    refine iff_of_false (by simp) ?_
    rintro ⟨earlier, later, last, -⟩
    rcases lastPress_snoc.mp last with ⟨press, -⟩ | ⟨-, notRelease, -⟩
    · cases press
    · exact absurd (isRelease.symm.trans notRelease) (by decide)
  · intro _ down
    rw [released.1] at down
    simp at down

theorem apart_tells (tells : Tells holdFrames key calls pad) {call : KeypadCall}
    (notPress : call.presses key = false) (notRelease : call.releases key = false)
    (rest : call ≠ .tick) :
    Tells holdFrames key (calls ++ [call]) (pad.answer call).1 := by
  obtain ⟨pressed, hold⟩ := answer_apart pad notPress notRelease rest
  obtain ⟨frames, reported⟩ := answer_frames pad call
  have passed : ∀ later, framesUnreported (later ++ [call]) = framesUnreported later := by
    intro later
    rw [framesUnreported_snoc, if_neg fun both => rest both.1, Nat.add_zero]
  constructor
  · exact frames.trans tells.frames
  · rw [reported, tells.reported]
    simp
  · rw [pressed, tells.pressed]
    constructor
    · rintro ⟨earlier, later, last, lasts⟩
      refine ⟨earlier, later ++ [call],
        lastPress_snoc.mpr (.inr ⟨notPress, notRelease, later, rfl, last⟩), ?_⟩
      unfold Lasts
      rw [passed]
      exact lasts
    · rintro ⟨earlier, later, last, lasts⟩
      rcases lastPress_snoc.mp last with ⟨press, -⟩ | ⟨-, -, before, rfl, old⟩
      · exact absurd (press.symm.trans notPress) (by decide)
      · unfold Lasts at lasts
        rw [passed] at lasts
        exact ⟨earlier, before, old, lasts⟩
  · intro unreported down earlier later last
    rcases lastPress_snoc.mp last with ⟨press, -⟩ | ⟨-, -, before, rfl, old⟩
    · exact absurd (press.symm.trans notPress) (by decide)
    · rw [pressed] at down
      rw [List.any_append, Bool.or_eq_false_iff] at unreported
      rw [hold, passed]
      exact tells.hold unreported.1 down earlier before old

theorem last_reported {earlier later : List KeypadCall}
    (last : LastPress key calls earlier later) :
    calls.any isReport = (earlier.any isReport || later.any isReport) := by
  obtain ⟨name, -, rfl⟩ := last.split
  simp [isReport]

theorem lastPress_tick {earlier later : List KeypadCall} :
    LastPress key (calls ++ [.tick]) earlier later ↔
      ∃ before, later = before ++ [.tick] ∧ LastPress key calls earlier before := by
  rw [lastPress_snoc]
  simp [presses, releases]

/-- Once releases are reported, frames do not count any more. -/
theorem trusting_tells (tells : Tells holdFrames key calls pad)
    (reported : calls.any isReport = true) :
    Tells holdFrames key (calls ++ [.tick]) (pad.answer .tick).1 := by
  have same : ∀ earlier later, LastPress key calls earlier later →
      (Lasts holdFrames earlier (later ++ [.tick]) ↔ Lasts holdFrames earlier later) := by
    intro earlier later last
    rw [last_reported last, Bool.or_eq_true] at reported
    unfold Lasts
    rcases reported with first | second
    · exact iff_of_true (.inl first) (.inl first)
    · rw [framesUnreported_snoc, if_neg (by simp [second]), Nat.add_zero]
  have still : (calls ++ [KeypadCall.tick]).any isReport = true := by
    rw [List.any_append, reported, Bool.true_or]
  rw [tick_trusting (tells.reported.trans reported)]
  constructor
  · exact tells.frames
  · rw [still, tells.reported, reported]
  · rw [tells.pressed]
    constructor
    · rintro ⟨earlier, later, last, lasts⟩
      exact ⟨earlier, later ++ [.tick], lastPress_tick.mpr ⟨later, rfl, last⟩,
        (same earlier later last).mpr lasts⟩
    · rintro ⟨earlier, later, last, lasts⟩
      obtain ⟨before, rfl, old⟩ := lastPress_tick.mp last
      exact ⟨earlier, before, old, (same earlier before old).mp lasts⟩
  · intro unreported
    rw [still] at unreported
    cases unreported

/-- Until then the countdown of a pressed key is what is left of the hold, so that it runs out with
the frame that the last press does not outlast. -/
theorem counting_tells (tells : Tells holdFrames key calls pad)
    (unreported : calls.any isReport = false) :
    Tells holdFrames key (calls ++ [.tick]) (pad.answer .tick).1 := by
  obtain ⟨pressed, hold⟩ := tick_counting (tells.reported.trans unreported) key
  obtain ⟨frames, reported⟩ := answer_frames pad .tick
  have counted : ∀ earlier later, LastPress key calls earlier later →
      earlier.any isReport = false ∧
        framesUnreported (later ++ [.tick]) = framesUnreported later + 1 := by
    intro earlier later last
    have none := unreported
    rw [last_reported last, Bool.or_eq_false_iff] at none
    exact ⟨none.1, by rw [framesUnreported_snoc, if_pos ⟨rfl, none.2⟩]⟩
  have lasting : ∀ earlier later, LastPress key calls earlier later →
      (Lasts holdFrames earlier later ↔ framesUnreported later < max holdFrames 1) ∧
        (Lasts holdFrames earlier (later ++ [.tick]) ↔
          framesUnreported later + 1 < max holdFrames 1) := by
    intro earlier later last
    obtain ⟨none, one⟩ := counted earlier later last
    unfold Lasts
    simp [none, one]
  constructor
  · exact frames.trans tells.frames
  · rw [reported, tells.reported]
    simp
  · rw [pressed, Bool.and_eq_true]
    constructor
    · rintro ⟨down, stays⟩
      obtain ⟨earlier, later, last, lasts⟩ := tells.pressed.mp down
      refine ⟨earlier, later ++ [.tick], lastPress_tick.mpr ⟨later, rfl, last⟩, ?_⟩
      have left := tells.hold unreported down earlier later last
      simp only [expires_eq, down, left, Bool.true_and, Bool.not_eq_true', decide_eq_false_iff_not]
        at stays
      rw [(lasting earlier later last).2]
      omega
    · rintro ⟨earlier, later, last, lasts⟩
      obtain ⟨before, rfl, old⟩ := lastPress_tick.mp last
      rw [(lasting earlier before old).2] at lasts
      have down : pad.pressed.get key = true :=
        tells.pressed.mpr ⟨earlier, before, old, (lasting earlier before old).1.mpr (by omega)⟩
      refine ⟨down, ?_⟩
      have left := tells.hold unreported down earlier before old
      simp only [expires_eq, down, left, Bool.true_and, Bool.not_eq_true', decide_eq_false_iff_not]
      omega
  · intro _ stays earlier later last
    obtain ⟨before, rfl, old⟩ := lastPress_tick.mp last
    rw [pressed, Bool.and_eq_true] at stays
    rw [hold, if_pos stays.1, tells.hold unreported stays.1 earlier before old,
      (counted earlier before old).2]
    omega

theorem answer_tells (tells : Tells holdFrames key calls pad) (call : KeypadCall) :
    Tells holdFrames key (calls ++ [call]) (pad.answer call).1 := by
  cases call with
  | tick =>
      cases reported : calls.any isReport with
      | true => exact trusting_tells tells reported
      | false => exact counting_tells tells reported
  | down name =>
      by_cases mapped : slot? name = some key
      · exact press_tells tells mapped
      · exact apart_tells tells (by simpa [presses] using mapped) rfl nofun
  | up name =>
      by_cases mapped : slot? name = some key
      · exact release_tells tells mapped
      · exact apart_tells tells rfl (by simpa [releases] using mapped) nofun

theorem after_tells (holdFrames : Nat) (key : Fin 16) (calls : List KeypadCall) :
    Tells holdFrames key calls ((idle holdFrames).after calls) := by
  induction calls using List.reverseRecOn with
  | nil => exact idle_tells holdFrames key
  | append_singleton earlier call ih =>
      unfold after at ih ⊢
      rw [List.foldl_append]
      exact answer_tells ih call

/-- If a call is the last one about a key then the last press of that key is this call, if it is a
press at all. -/
theorem lastPress_mentioned {key : Fin 16} {call : KeypadCall}
    (mentioned : call.presses key = true ∨ call.releases key = true)
    {before behind earlier later : List KeypadCall}
    (unmentioned : ∀ other ∈ behind, other.presses key = false ∧ other.releases key = false) :
    LastPress key (before ++ call :: behind) earlier later ↔
      call.presses key = true ∧ earlier = before ∧ later = behind := by
  induction behind using List.reverseRecOn generalizing later with
  | nil =>
      rw [lastPress_snoc]
      constructor
      · rintro (last | ⟨notPress, notRelease, -⟩)
        · exact last
        · simp [notPress, notRelease] at mentioned
      · exact .inl
  | append_singleton front last ih =>
      have apart := unmentioned last (List.mem_append_right _ (List.mem_singleton_self _))
      have inFront := fun other member => unmentioned other (List.mem_append_left _ member)
      rw [← List.cons_append, ← List.append_assoc, lastPress_snoc]
      simp only [apart, ih inFront]
      constructor
      · rintro (⟨press, -⟩ | ⟨-, -, rest, rfl, press, same, rfl⟩)
        · cases press
        · exact ⟨press, same, rfl⟩
      · rintro ⟨press, same, rfl⟩
        exact .inr ⟨trivial, trivial, front, rfl, press, same, rfl⟩

/-- The last call about a key tells whether it is down. -/
theorem mentioned_pressed (holdFrames : Nat) {key : Fin 16} {call : KeypadCall}
    (mentioned : call.presses key = true ∨ call.releases key = true)
    {before behind : List KeypadCall}
    (unmentioned : ∀ other ∈ behind, other.presses key = false ∧ other.releases key = false) :
    ((idle holdFrames).after (before ++ call :: behind)).pressed.get key = true ↔
      call.presses key = true ∧ Lasts holdFrames before behind := by
  rw [(after_tells holdFrames key _).pressed]
  constructor
  · rintro ⟨earlier, later, last, lasts⟩
    obtain ⟨press, rfl, rfl⟩ := (lastPress_mentioned mentioned unmentioned).mp last
    exact ⟨press, lasts⟩
  · rintro ⟨press, lasts⟩
    exact ⟨before, behind, (lastPress_mentioned mentioned unmentioned).mpr ⟨press, rfl, rfl⟩, lasts⟩

/-- For every hold, zero included, and every row of calls with any names: a key is down at the end
exactly when some press of it was the last one and was not released after it, and either a release
of any key was reported before that press, or fewer frames than the hold, counted as at least one,
passed between the press and the first report of a release, or the end if there is none. -/
theorem held_exactly (holdFrames : Nat) (calls : List KeypadCall) (key : Fin 16) :
    ((idle holdFrames).after calls).pressed.get key = true ↔
      ∃ earlier name later, calls = earlier ++ .down name :: later ∧ slot? name = some key ∧
        (∀ call ∈ later, call.presses key = false ∧ call.releases key = false) ∧
        (earlier.any isReport = true ∨
          (later.takeWhile fun call => !call.isReport).count .tick < max holdFrames 1) := by
  rw [(after_tells holdFrames key calls).pressed]
  constructor
  · rintro ⟨earlier, later, ⟨⟨name, mapped, whole⟩, latest, unreleased⟩, lasts⟩
    exact ⟨earlier, name, later, whole, mapped,
      fun call member => ⟨latest call member, unreleased call member⟩, lasts⟩
  · rintro ⟨earlier, name, later, whole, mapped, unmentioned, lasts⟩
    refine ⟨earlier, later, ⟨⟨name, mapped, whole⟩, ?_, ?_⟩, lasts⟩
    · exact fun call member => (unmentioned call member).1
    · exact fun call member => (unmentioned call member).2

end Keypad

end Chip8Inspector
