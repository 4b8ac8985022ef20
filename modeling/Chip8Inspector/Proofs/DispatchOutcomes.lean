import Chip8Inspector.Proofs.BoardView

/-!
# What comes of handing out a snapshot

Places do not depend on each other, so that each target answers as if it were the only one: the
report of a pass counts the answers that the board as it was before would have given. The
inspector's own gauges never refuse a snapshot, and none of them is ever missing.
-/

namespace Chip8Inspector

set_option autoImplicit false

namespace Board

section Places

variable {W : Type}

theorem alter_elsewhere (board : Board W) {id other : String} (different : other ≠ id)
    (change : W → W) : (board.alter id change).widget? other = board.widget? other := by
  rcases board with ⟨places⟩
  unfold alter widget?
  dsimp only
  induction places with
  | nil => rfl
  | cons place rest ih =>
      have sameId : (if place.1 = id then (place.1, change place.2) else place).1 = place.1 := by
        split <;> rfl
      rw [List.map_cons, List.lookup_cons, List.lookup_cons, sameId, ih]
      by_cases here : other = place.1
      · have away : place.1 ≠ id := fun same => different (here.trans same)
        rw [if_neg away]
      · rw [beq_false_of_ne here]

variable [Widget W]

/-- What a target answers does not depend on the targets before it. -/
theorem syncAt_elsewhere {board : Board W} (distinct : board.Distinct) {id other : String}
    (different : other ≠ id) (snapshot : Snapshot) :
    ((board.syncAt id snapshot).2.syncAt other snapshot).1 = (board.syncAt other snapshot).1 := by
  rw [syncAt_eq_alter distinct]
  unfold syncAt
  rw [alter_elsewhere board different]
  cases board.widget? other <;> rfl

def outcomes (board : Board W) (ids : List String) (snapshot : Snapshot) :
    List (Except WidgetError Bool) :=
  ids.map fun id => (board.syncAt id snapshot).1

theorem outcomes_elsewhere {board : Board W} (distinct : board.Distinct) {id : String}
    {ids : List String} (absent : id ∉ ids) (snapshot : Snapshot) :
    (board.syncAt id snapshot).2.outcomes ids snapshot = board.outcomes ids snapshot := by
  apply List.map_congr_left
  intro other member
  have different : other ≠ id := fun same => absent (same ▸ member)
  exact syncAt_elsewhere distinct different snapshot

def syncNext (snapshot : Snapshot) (synced : Synced W) (id : String) : Synced W where
  board := (synced.board.syncAt id snapshot).2
  report := synced.report.count (synced.board.syncAt id snapshot).1
  errors := synced.errors ++ errorsOf (synced.board.syncAt id snapshot).1

theorem syncFrom_outcomes (synced : Synced W) (distinct : synced.board.Distinct)
    {ids : List String} (once : ids.Nodup) (snapshot : Snapshot) :
    let finish := ids.foldl (syncNext snapshot) synced
    let outcomes := synced.board.outcomes ids snapshot
    finish.report = outcomes.foldl SyncReport.count synced.report ∧
      finish.errors = synced.errors ++ outcomes.flatMap errorsOf := by
  induction ids generalizing synced with
  | nil => exact ⟨rfl, (List.append_nil _).symm⟩
  | cons id rest ih =>
      rcases List.nodup_cons.mp once with ⟨absent, restOnce⟩
      have stillDistinct : (synced.board.syncAt id snapshot).2.Distinct := by
        rw [syncAt_eq_alter distinct]
        exact alter_distinct distinct _ _
      obtain ⟨report, errors⟩ := ih (syncNext snapshot synced id) stillDistinct restOnce
      have sameOutcomes : (syncNext snapshot synced id).board.outcomes rest snapshot =
          synced.board.outcomes rest snapshot := outcomes_elsewhere distinct absent snapshot
      rw [sameOutcomes] at report errors
      refine ⟨report, errors.trans ?_⟩
      simp only [syncNext, outcomes, List.map_cons, List.flatMap_cons, List.append_assoc]

/-- A pass over distinct ids reports what each target answers on its own. -/
theorem syncThrough_outcomes {board : Board W} (distinct : board.Distinct) {ids : List String}
    (once : ids.Nodup) (snapshot : Snapshot) :
    let synced := board.syncThrough ids snapshot
    let outcomes := board.outcomes ids snapshot
    synced.report = outcomes.foldl SyncReport.count {} ∧
      synced.errors = outcomes.flatMap errorsOf :=
  syncFrom_outcomes { board := board } distinct once snapshot

theorem granted_failures {outcomes : List (Except WidgetError Bool)} {report : SyncReport}
    (granted : ∀ outcome ∈ outcomes, ∃ rendered, outcome = .ok rendered) :
    (outcomes.foldl SyncReport.count report).failures = report.failures := by
  induction outcomes generalizing report with
  | nil => rfl
  | cons outcome rest ih =>
      rw [List.foldl_cons, ih fun other member => granted other (List.mem_cons_of_mem _ member)]
      obtain ⟨rendered, rfl⟩ := granted outcome List.mem_cons_self
      cases rendered <;> rfl

theorem granted_errors {outcomes : List (Except WidgetError Bool)}
    (granted : ∀ outcome ∈ outcomes, ∃ rendered, outcome = .ok rendered) :
    outcomes.flatMap errorsOf = [] := by
  rw [List.flatMap_eq_nil_iff]
  intro outcome member
  obtain ⟨rendered, rfl⟩ := granted outcome member
  rfl

end Places

end Board

/-- A readout on the board has to follow a field; the other gauges take any snapshot. -/
def Gauge.Bound : Gauge → Prop
  | .readout number => number.field ≠ none
  | _ => True

theorem standard_bound : ∀ kind ∈ standardGauges, kind.Bound := by
  intro kind member
  simp only [standardGauges, List.mem_cons, List.not_mem_nil, or_false] at member
  rcases member with rfl | rfl | rfl | rfl | rfl | rfl
  · exact Option.some_ne_none _
  · exact Option.some_ne_none _
  · exact trivial
  · exact Option.some_ne_none _
  · exact Option.some_ne_none _
  · exact trivial

theorem gauge_grants {kind gauge : Gauge} {held : Snapshot}
    (displays : Gauge.Displays held kind gauge) (bound : kind.Bound) (snapshot : Snapshot) :
    ∃ rendered, (gauge.sync snapshot).1 = .ok rendered := by
  cases kind <;> cases gauge
  case readout.readout kind number =>
    have sameField : number.field = kind.field := by
      rw [Readout.Displays.holds displays]
    obtain ⟨field, followed⟩ := Option.ne_none_iff_exists'.mp bound
    show ∃ rendered, (number.sync snapshot).1 = .ok rendered
    unfold Readout.sync
    rw [sameField, followed]
    exact ⟨_, rfl⟩
  case registers.registers kind bank =>
    show ∃ rendered, (bank.sync snapshot).1 = .ok rendered
    rw [bank_sync_eq_put]
    exact ⟨_, rfl⟩
  case listing.listing kind pane => exact ⟨_, rfl⟩
  all_goals exact displays.elim

namespace Board

theorem displayed_kind {board : Board Gauge} {held : Snapshot} (displays : board.Displays held)
    {place : String × Gauge} (member : place ∈ board.places) :
    ∃ kind ∈ standardGauges, Gauge.Displays held kind place.2 := by
  obtain ⟨position, inside, rfl⟩ := List.getElem_of_mem member
  have inKinds : position < standardGauges.length := displays.length_eq ▸ inside
  exact ⟨standardGauges[position], List.getElem_mem inKinds, (displays.get inKinds inside).2⟩

theorem displayed_grants {board : Board Gauge} {held : Snapshot}
    (displays : board.Displays held) {id : String} (target : id ∈ targets) (snapshot : Snapshot) :
    ∃ rendered, (board.syncAt id snapshot).1 = .ok rendered := by
  rw [← displayed_ids displays, List.mem_map] at target
  obtain ⟨place, member, rfl⟩ := target
  obtain ⟨kind, standard, shown⟩ := displayed_kind displays member
  obtain ⟨rendered, granted⟩ := gauge_grants shown (standard_bound kind standard) snapshot
  unfold syncAt
  rw [widget_of_place (displayed_distinct displays) member]
  exact ⟨rendered, granted⟩

/-- On the inspector's board no target is missing and none refuses. -/
theorem syncAll_grants {board : Board Gauge} {held : Snapshot} (displays : board.Displays held)
    (snapshot : Snapshot) :
    (board.syncAll snapshot).report.failures = 0 ∧ (board.syncAll snapshot).errors = [] := by
  obtain ⟨report, errors⟩ :=
    syncThrough_outcomes (displayed_distinct displays) targets_once snapshot
  have granted : ∀ outcome ∈ board.outcomes targets snapshot,
      ∃ rendered, outcome = .ok rendered := by
    intro outcome member
    obtain ⟨id, target, rfl⟩ := List.mem_map.mp member
    exact displayed_grants displays target snapshot
  unfold syncAll
  rw [report, errors]
  exact ⟨granted_failures granted, granted_errors granted⟩

end Board

end Chip8Inspector
