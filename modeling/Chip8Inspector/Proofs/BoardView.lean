import Chip8Inspector.Proofs.WidgetDisplay
import Mathlib.Data.List.Forall2
import Mathlib.Data.List.Induction

/-!
# What the board shows depends on the latest snapshot only

A snapshot is handed to one place after another. On a board where no id stands twice this is the
same as bringing each widget up to date on its own, so that the invariant of a board is that of
its widgets: every gauge displays its part of the snapshot that was handed out last.
-/

namespace Chip8Inspector

set_option autoImplicit false

/-- All that can be seen of a widget: its own face and those of the surfaces it shows. -/
structure Look where
  own : Face
  shown : List Face
  deriving DecidableEq

namespace Board

variable {W : Type}

def Distinct (board : Board W) : Prop :=
  (board.places.map Prod.fst).Nodup

def alter (board : Board W) (id : String) (change : W → W) : Board W :=
  ⟨board.places.map fun place => if place.1 = id then (place.1, change place.2) else place⟩

theorem alter_distinct {board : Board W} (distinct : board.Distinct) (id : String)
    (change : W → W) : (board.alter id change).Distinct := by
  have sameIds : (board.alter id change).places.map Prod.fst = board.places.map Prod.fst := by
    simp only [alter, List.map_map]
    apply List.map_congr_left
    intro place _
    simp only [Function.comp_apply]
    split <;> rfl
  unfold Distinct
  rw [sameIds]
  exact distinct

theorem widget_of_place {board : Board W} (distinct : board.Distinct) {place : String × W}
    (member : place ∈ board.places) : board.widget? place.1 = some place.2 := by
  rcases List.append_of_mem member with ⟨before, after, split⟩
  apply List.lookup_eq_some_iff.mpr
  refine ⟨before, after, split, ?_⟩
  intro other inFront
  unfold Distinct at distinct
  rw [split, List.map_append, List.nodup_append] at distinct
  have different : other.1 ≠ place.1 :=
    distinct.2.2 other.1 (List.mem_map_of_mem inFront) place.1 (by simp)
  simpa using different.symm

theorem alter_empty_place {board : Board W} {id : String} (empty : board.widget? id = none)
    (change : W → W) : board.alter id change = board := by
  have unchanged : ∀ place ∈ board.places,
      (if place.1 = id then (place.1, change place.2) else place) = place := by
    intro place member
    have different := List.lookup_eq_none_iff.mp empty place member
    have away : place.1 ≠ id := fun same => by simp [same] at different
    rw [if_neg away]
  unfold alter
  rw [List.map_congr_left unchanged, List.map_id']

theorem replace_eq_alter {board : Board W} (distinct : board.Distinct) {id : String}
    {widget : W} (found : board.widget? id = some widget) (change : W → W) :
    board.replace id (change widget) = board.alter id change := by
  unfold replace alter
  congr 1
  apply List.map_congr_left
  intro place member
  by_cases here : place.1 = id
  · have same : place.2 = widget := by
      have known := widget_of_place distinct member
      rw [here, found] at known
      exact (Option.some.inj known).symm
    rw [if_pos here, if_pos here, same, here]
  · rw [if_neg here, if_neg here]

variable [Widget W]

theorem mountAll_places (board : Board W) (widgets : List W)
    (once : (widgets.map Widget.id).Nodup)
    (free : ∀ place ∈ board.places, place.1 ∉ widgets.map Widget.id) :
    (board.mountAll widgets).places =
      board.places ++ widgets.map fun widget => (Widget.id widget, widget) := by
  unfold mountAll
  induction widgets generalizing board with
  | nil => simp
  | cons widget rest ih =>
      rw [List.map_cons] at once free
      rcases List.nodup_cons.mp once with ⟨fresh, restOnce⟩
      have mounted : (board.mount widget).places =
          board.places ++ [(Widget.id widget, widget)] := by
        have kept : ∀ place ∈ board.places, (place.1 != Widget.id widget) = true := by
          intro place member
          have different : place.1 ≠ Widget.id widget :=
            fun same => free place member (same ▸ List.mem_cons_self)
          simpa using different
        show board.places.filter _ ++ _ = _
        rw [List.filter_eq_self.mpr kept]
      rw [List.foldl_cons, ih (board.mount widget) restOnce, mounted]
      · simp
      · intro place member
        rw [mounted] at member
        rcases List.mem_append.mp member with old | new
        · exact fun later => free place old (List.mem_cons_of_mem _ later)
        · rw [List.mem_singleton.mp new]
          exact fresh

theorem syncAt_eq_alter {board : Board W} (distinct : board.Distinct) (id : String)
    (snapshot : Snapshot) :
    (board.syncAt id snapshot).2 =
      board.alter id fun widget => (Widget.sync widget snapshot).2 := by
  unfold syncAt
  cases found : board.widget? id with
  | none => exact (alter_empty_place found _).symm
  | some widget =>
      exact replace_eq_alter distinct found fun widget => (Widget.sync widget snapshot).2

theorem render_eq_alter {board : Board W} (distinct : board.Distinct) (id : String) :
    board.render id = board.alter id Widget.render := by
  unfold render
  cases found : board.widget? id with
  | none => exact (alter_empty_place found _).symm
  | some widget => exact replace_eq_alter distinct found Widget.render

/-- The pass keeps a report beside the board; the board itself does not depend on it. -/
theorem syncThrough_board (board : Board W) (ids : List String) (snapshot : Snapshot) :
    (board.syncThrough ids snapshot).board =
      ids.foldl (fun board id => (board.syncAt id snapshot).2) board := by
  unfold syncThrough
  exact (List.foldl_hom Synced.board fun _ _ => rfl).symm

/-- A pass over distinct ids brings every widget up to date that stands under one of them, each
on its own, and leaves the others alone. -/
theorem syncThrough_places {board : Board W} (distinct : board.Distinct) {ids : List String}
    (once : ids.Nodup) (snapshot : Snapshot) :
    (board.syncThrough ids snapshot).board.places =
      board.places.map fun place =>
        if place.1 ∈ ids then (place.1, (Widget.sync place.2 snapshot).2) else place := by
  rw [syncThrough_board]
  induction ids generalizing board with
  | nil => simp
  | cons id rest ih =>
      rcases List.nodup_cons.mp once with ⟨fresh, restOnce⟩
      rw [List.foldl_cons, syncAt_eq_alter distinct,
        ih (alter_distinct distinct _ _) restOnce]
      simp only [alter, List.map_map]
      apply List.map_congr_left
      intro place _
      by_cases here : place.1 = id
      · simp [here, fresh]
      · simp [here]

def looks (board : Board W) : List (String × Look) :=
  board.places.map fun place =>
    (place.1,
      { own := (Widget.surface place.2).face
        shown := (Widget.shown place.2).map Surface.face })

end Board

/-- What a readout of this kind has to hold. One that follows no field keeps what it has. -/
def Readout.valueIn (kind : Readout) (snapshot : Snapshot) : Nat :=
  match kind.field with
  | none => kind.value
  | some field => field.read snapshot

def Snapshot.contents (snapshot : Snapshot) : List LineContent :=
  snapshot.listing.map (LineContent.ofListed snapshot.programCounter)

namespace Gauge

/-- The gauge is of the given kind, and holds and shows its part of the snapshot. -/
def Displays (snapshot : Snapshot) : Gauge → Gauge → Prop
  | .readout kind, .readout number => number.Displays kind (kind.valueIn snapshot)
  | .registers _, .registers bank => bank.Displays snapshot.registers
  | .listing _, .listing pane => pane.Settled ∧ pane.contents = snapshot.contents
  | _, _ => False

/-- How a gauge looks for a snapshot, said without any history. -/
def lookFor (snapshot : Snapshot) : Gauge → Look
  | .readout kind =>
      let face : Face := { text := Text.labelled kind.label kind.width (kind.valueIn snapshot) }
      ⟨face, [face]⟩
  | .registers _ =>
      ⟨slotsFace registerSlots, (List.finRange 16).map fun index =>
        { text := Text.labelled (Text.registerName index) 2 (snapshot.registers.get index).toNat }⟩
  | .listing _ =>
      ⟨slotsFace ((List.range snapshot.contents.length).map lineSlot),
        snapshot.contents.map LineContent.face⟩

end Gauge

theorem gauge_sync_displays {kind gauge : Gauge} {held : Snapshot}
    (displays : Gauge.Displays held kind gauge) (snapshot : Snapshot) :
    Gauge.Displays snapshot kind (gauge.sync snapshot).2 := by
  cases kind with
  | readout kind =>
      cases gauge with
      | readout number =>
          have sameField : number.field = kind.field := by
            rw [Readout.Displays.holds displays]
          show ((number.sync snapshot).2).Displays kind (kind.valueIn snapshot)
          unfold Readout.sync
          rw [sameField]
          cases followed : kind.field with
          | none =>
              have kept : kind.valueIn snapshot = kind.valueIn held := by
                simp only [Readout.valueIn, followed]
              rw [kept]
              exact displays
          | some field =>
              have read : kind.valueIn snapshot = field.read snapshot := by
                simp only [Readout.valueIn, followed]
              rw [read]
              exact readout_update_displays displays _
      | registers bank => exact displays.elim
      | listing pane => exact displays.elim
  | registers kind =>
      cases gauge with
      | readout number => exact displays.elim
      | registers bank =>
          show ((bank.sync snapshot).2).Displays snapshot.registers
          rw [bank_sync_eq_put]
          exact bank_put_displays displays snapshot.registers
      | listing pane => exact displays.elim
  | listing kind =>
      cases gauge with
      | readout number => exact displays.elim
      | registers bank => exact displays.elim
      | listing pane =>
          exact ⟨pane_update_settled displays.1 _ _, pane_update_contents pane _ _⟩

theorem gauge_render_displays {kind gauge : Gauge} {snapshot : Snapshot}
    (displays : Gauge.Displays snapshot kind gauge) :
    Gauge.Displays snapshot kind gauge.render := by
  cases kind <;> cases gauge
  case readout.readout => exact readout_render_displays displays
  case registers.registers => exact bank_render_displays displays
  case listing.listing => exact ⟨pane_render_settled displays.1.lines, displays.2⟩
  all_goals exact displays.elim

theorem gauge_look {kind gauge : Gauge} {snapshot : Snapshot}
    (displays : Gauge.Displays snapshot kind gauge) :
    ({ own := gauge.surface.face, shown := gauge.shown.map Surface.face } : Look) =
      kind.lookFor snapshot := by
  cases kind <;> cases gauge
  case readout.readout kind number =>
    simp [Gauge.surface, Gauge.shown, Gauge.lookFor, readout_displayed_face displays]
  case registers.registers kind bank =>
    have faces := bank_displayed_faces displays
    simp only [Gauge.surface, Gauge.shown, Gauge.lookFor, displays.drawn, ← faces,
      List.map_map, Function.comp_def]
  case listing.listing kind pane =>
    have count : pane.lines.length = snapshot.contents.length := by
      rw [← displays.2, ListingPane.contents, List.length_map]
    have faces := settled_faces displays.1
    rw [displays.2] at faces
    simp only [Gauge.surface, Gauge.shown, Gauge.lookFor, displays.1.drawn, count, ← faces,
      List.map_map, Function.comp_def]
  all_goals exact displays.elim

def standardGauges : List Gauge :=
  [.readout .programCounter, .readout .indexRegister, .registers .make, .readout .delayTimer,
    .readout .soundTimer, .listing .make]

namespace Board

/-- Every place of the inspector's board is taken by its own gauge, which displays its part of
the snapshot. -/
def Displays (board : Board Gauge) (snapshot : Snapshot) : Prop :=
  List.Forall₂ (fun kind place => place.1 = kind.id ∧ Gauge.Displays snapshot kind place.2)
    standardGauges board.places

theorem standard_ids : standardGauges.map Gauge.id = targets := by
  rfl

theorem targets_once : targets.Nodup := by
  decide

theorem standard_places :
    standard.places = standardGauges.map fun kind => (kind.id, kind) := by
  have once : (standardGauges.map Widget.id).Nodup := by
    show (standardGauges.map Gauge.id).Nodup
    rw [standard_ids]
    exact targets_once
  exact mountAll_places empty standardGauges once (by intro place member; cases member)

theorem standard_displays : standard.Displays Snapshot.blank := by
  unfold Displays
  rw [standard_places, List.forall₂_map_right_iff, List.forall₂_same]
  intro kind member
  refine ⟨rfl, ?_⟩
  simp only [standardGauges, List.mem_cons, List.not_mem_nil, or_false] at member
  rcases member with rfl | rfl | rfl | rfl | rfl | rfl
  · exact readout_make_displays _ _ _ _
  · exact readout_make_displays _ _ _ _
  · exact bank_make_displays
  · exact readout_make_displays _ _ _ _
  · exact readout_make_displays _ _ _ _
  · exact ⟨pane_make_settled, rfl⟩

theorem displayed_ids {board : Board Gauge} {snapshot : Snapshot}
    (displays : board.Displays snapshot) : board.places.map Prod.fst = targets := by
  rw [← standard_ids]
  have sameId := List.Forall₂.imp (fun _ _ shown => shown.1) displays
  have mapped : List.Forall₂ (fun left right => left = right) (standardGauges.map Gauge.id)
      (board.places.map Prod.fst) := by
    rw [List.forall₂_map_left_iff, List.forall₂_map_right_iff]
    exact List.Forall₂.imp (fun _ _ same => same.symm) sameId
  exact (List.forall₂_eq_eq_eq ▸ mapped).symm

theorem displayed_distinct {board : Board Gauge} {snapshot : Snapshot}
    (displays : board.Displays snapshot) : board.Distinct := by
  unfold Distinct
  rw [displayed_ids displays]
  exact targets_once

/-- A gate that wrongly skipped a gauge would leave it at `held`. -/
theorem syncAll_displays {board : Board Gauge} {held : Snapshot}
    (displays : board.Displays held) (snapshot : Snapshot) :
    (board.syncAll snapshot).board.Displays snapshot := by
  have places := syncThrough_places (displayed_distinct displays) targets_once snapshot
  have everyPlace : ∀ place ∈ board.places,
      (if place.1 ∈ targets then (place.1, (Widget.sync place.2 snapshot).2) else place) =
        (place.1, place.2.sync snapshot |>.2) := by
    intro place member
    have isTarget : place.1 ∈ targets := by
      rw [← displayed_ids displays]
      exact List.mem_map_of_mem member
    rw [if_pos isTarget]
    rfl
  unfold Displays syncAll
  rw [places, List.map_congr_left everyPlace, List.forall₂_map_right_iff]
  exact List.Forall₂.imp
    (fun _ _ shown => ⟨shown.1, gauge_sync_displays shown.2 snapshot⟩) displays

theorem render_displays {board : Board Gauge} {snapshot : Snapshot}
    (displays : board.Displays snapshot) (id : String) :
    (board.render id).Displays snapshot := by
  rw [render_eq_alter (displayed_distinct displays)]
  unfold Displays alter
  rw [List.forall₂_map_right_iff]
  apply List.Forall₂.imp _ displays
  intro kind place shown
  by_cases here : place.1 = id
  · rw [if_pos here]
    exact ⟨shown.1, gauge_render_displays shown.2⟩
  · rw [if_neg here]
    exact shown

def picture (snapshot : Snapshot) : List (String × Look) :=
  standardGauges.map fun kind => (kind.id, kind.lookFor snapshot)

theorem displayed_looks {board : Board Gauge} {snapshot : Snapshot}
    (displays : board.Displays snapshot) : board.looks = picture snapshot := by
  have sameLooks : List.Forall₂ (fun left right => left = right) (picture snapshot)
      board.looks := by
    unfold picture looks
    rw [List.forall₂_map_left_iff, List.forall₂_map_right_iff]
    apply List.Forall₂.imp _ displays
    intro kind place shown
    exact Prod.ext shown.1.symm (gauge_look shown.2).symm
  exact (List.forall₂_eq_eq_eq ▸ sameLooks).symm

end Board

inductive BoardEvent where
  | handOut (snapshot : Snapshot)
  /-- The widget under the id, if there is one, is drawn without being brought up to date. -/
  | redraw (id : String)

def BoardEvent.snapshot? : BoardEvent → Option Snapshot
  | .handOut snapshot => some snapshot
  | .redraw _ => none

namespace Board

def undergo (board : Board Gauge) : BoardEvent → Board Gauge
  | .handOut snapshot => (board.syncAll snapshot).board
  | .redraw id => board.render id

def replay (board : Board Gauge) (events : List BoardEvent) : Board Gauge :=
  events.foldl undergo board

def latest? (events : List BoardEvent) : Option Snapshot :=
  (events.filterMap BoardEvent.snapshot?).getLast?

theorem replay_displays (events : List BoardEvent) :
    (standard.replay events).Displays ((latest? events).getD .blank) := by
  induction events using List.reverseRecOn with
  | nil => exact standard_displays
  | append_singleton events event ih =>
      unfold replay at ih ⊢
      rw [List.foldl_append]
      cases event with
      | handOut snapshot =>
          simp only [latest?, List.filterMap_append, List.filterMap_cons, List.filterMap_nil,
            BoardEvent.snapshot?, List.getLast?_append, List.getLast?_singleton]
          exact syncAll_displays ih snapshot
      | redraw id =>
          simp only [latest?, List.filterMap_append, List.filterMap_cons, List.filterMap_nil,
            BoardEvent.snapshot?, List.append_nil]
          exact render_displays ih id

/-- After any snapshots, of any content and in any order, with redraws of any widgets in
between, each widget looks as on a new board that was given the latest snapshot alone. -/
theorem replayed_looks_of_latest (events : List BoardEvent) :
    (standard.replay events).looks =
      match latest? events with
      | none => standard.looks
      | some latest => (standard.syncAll latest).board.looks := by
  have replayed := replay_displays events
  cases known : latest? events with
  | none =>
      rw [known] at replayed
      exact (displayed_looks replayed).trans (displayed_looks standard_displays).symm
  | some latest =>
      rw [known] at replayed
      have fresh := syncAll_displays standard_displays latest
      exact (displayed_looks replayed).trans (displayed_looks fresh).symm

end Board

end Chip8Inspector
