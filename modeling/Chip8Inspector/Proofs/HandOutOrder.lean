import Chip8Inspector.Proofs.DispatchOutcomes
import Mathlib.Data.List.Nodup

/-!
# The order in which a snapshot is handed out does not show

A board that was furnished in any way holds each id once. Then every target is brought up to date
as if it were the only one, whatever the others answer: the final board does not depend on the
order of the targets, and neither do the two counts of the report, which count answers of the
board as it was before. The inspector's own gauges hold what they were given last, so that nothing
is drawn when they get the same snapshot again.
-/

namespace Chip8Inspector

set_option autoImplicit false

inductive BoardChange (W : Type) where
  | mount (widget : W)
  | unmount (id : String)

namespace Board

section Furnishing

variable {W : Type}

theorem ext_places {left right : Board W} (same : left.places = right.places) :
    left = right := by
  cases left
  cases right
  exact congrArg mk same

theorem empty_distinct : (empty : Board W).Distinct :=
  List.nodup_nil

theorem unmount_distinct {board : Board W} (distinct : board.Distinct) (id : String) :
    (board.unmount id).Distinct :=
  distinct.sublist (List.filter_sublist.map Prod.fst)

variable [Widget W]

theorem mount_distinct {board : Board W} (distinct : board.Distinct) (widget : W) :
    (board.mount widget).Distinct := by
  unfold Distinct mount
  rw [List.map_append, List.nodup_append]
  refine ⟨unmount_distinct distinct _, List.nodup_singleton _, ?_⟩
  intro old member new here
  obtain ⟨place, kept, rfl⟩ := List.mem_map.mp member
  have away := (List.mem_filter.mp kept).2
  rw [List.mem_singleton.mp here]
  simpa using away

def change (board : Board W) : BoardChange W → Board W
  | .mount widget => board.mount widget
  | .unmount id => board.unmount id

def furnish (board : Board W) (changes : List (BoardChange W)) : Board W :=
  changes.foldl change board

theorem furnish_distinct {board : Board W} (distinct : board.Distinct)
    (changes : List (BoardChange W)) : (board.furnish changes).Distinct := by
  induction changes generalizing board with
  | nil => exact distinct
  | cons first later ih =>
      apply ih
      cases first with
      | mount widget => exact mount_distinct distinct widget
      | unmount id => exact unmount_distinct distinct id

end Furnishing

/-- The two counts of a report, each on its own. -/
theorem counted (outcomes : List (Except WidgetError Bool)) (report : SyncReport) :
    outcomes.foldl SyncReport.count report =
      ⟨report.rendered + outcomes.countP (· == .ok true),
        report.failures + outcomes.countP (!·.isOk)⟩ := by
  induction outcomes generalizing report with
  | nil => rfl
  | cons outcome rest ih =>
      rw [List.foldl_cons, ih, List.countP_cons, List.countP_cons]
      rcases outcome with cause | (_ | _) <;>
        simp [SyncReport.count, Except.isOk, Except.toBool] <;> omega

variable {W : Type} [Widget W]

/-- What the widget under an id answers to a snapshot, if there is one. -/
def answer? (board : Board W) (id : String) (snapshot : Snapshot) :
    Option (Except WidgetError Bool) :=
  (board.widget? id).map fun widget => (Widget.sync widget snapshot).1

theorem syncAt_answer (board : Board W) (id : String) (snapshot : Snapshot) :
    (board.syncAt id snapshot).1 =
      (board.answer? id snapshot).getD (.error (.missingTarget id)) := by
  unfold syncAt answer?
  cases board.widget? id <;> rfl

theorem outcomes_rendered (board : Board W) (ids : List String) (snapshot : Snapshot) :
    (board.outcomes ids snapshot).countP (· == .ok true) =
      ids.countP fun id => board.answer? id snapshot == some (.ok true) := by
  unfold outcomes
  rw [List.countP_map]
  apply List.countP_congr
  intro id _
  rw [Function.comp_apply, syncAt_answer]
  cases board.answer? id snapshot <;> simp

/-- A target fails by being missing or by refusing, never by both. -/
theorem outcomes_failed (board : Board W) (ids : List String) (snapshot : Snapshot) :
    (board.outcomes ids snapshot).countP (!·.isOk) =
      ids.countP (fun id => (board.widget? id).isNone) +
        ids.countP fun id => (board.answer? id snapshot).any (!·.isOk) := by
  unfold outcomes
  induction ids with
  | nil => rfl
  | cons id rest ih =>
      rw [List.map_cons, List.countP_cons, List.countP_cons, List.countP_cons, ih, syncAt_answer]
      cases found : board.widget? id with
      | none =>
          simp [answer?, found, Except.isOk, Except.toBool]
          omega
      | some widget =>
          simp [answer?, found]
          omega

theorem syncThrough_widget {board : Board W} (distinct : board.Distinct) {ids : List String}
    (once : ids.Nodup) (snapshot : Snapshot) (id : String) :
    (board.syncThrough ids snapshot).board.widget? id =
      if id ∈ ids then (board.widget? id).map fun widget => (Widget.sync widget snapshot).2
      else board.widget? id := by
  unfold widget?
  rw [syncThrough_places distinct once]
  rcases board with ⟨places⟩
  clear distinct
  dsimp only
  induction places with
  | nil =>
      rw [List.map_nil, List.lookup_nil, Option.map_none, ite_self]
  | cons place rest ih =>
      have sameId : (if place.1 ∈ ids then (place.1, (Widget.sync place.2 snapshot).2)
          else place).1 = place.1 := by
        split <;> rfl
      rw [List.map_cons, List.lookup_cons, List.lookup_cons, sameId, ih]
      by_cases here : id = place.1
      · by_cases target : place.1 ∈ ids <;> simp [here, target]
      · rw [beq_false_of_ne here]

theorem syncThrough_distinct {board : Board W} (distinct : board.Distinct) {ids : List String}
    (once : ids.Nodup) (snapshot : Snapshot) :
    (board.syncThrough ids snapshot).board.Distinct := by
  have sameIds : (board.syncThrough ids snapshot).board.places.map Prod.fst =
      board.places.map Prod.fst := by
    rw [syncThrough_places distinct once, List.map_map]
    apply List.map_congr_left
    intro place _
    rw [Function.comp_apply]
    split <;> rfl
  unfold Distinct
  rw [sameIds]
  exact distinct

/-- What handing a snapshot to the targets is to do: each widget under a target is brought up to
date on its own, no other is touched, and the report counts what the targets answer. -/
structure HandedOut (board : Board W) (snapshot : Snapshot) (synced : Synced W) : Prop where
  target : ∀ id ∈ targets, synced.board.widget? id =
    (board.widget? id).map fun widget => (Widget.sync widget snapshot).2
  other : ∀ id ∉ targets, synced.board.widget? id = board.widget? id
  failures : synced.report.failures =
    targets.countP (fun id => (board.widget? id).isNone) +
      targets.countP fun id => (board.answer? id snapshot).any (!·.isOk)
  rendered : synced.report.rendered =
    targets.countP fun id => board.answer? id snapshot == some (.ok true)

theorem syncThrough_report {board : Board W} (distinct : board.Distinct) {ids : List String}
    (once : ids.Nodup) (snapshot : Snapshot) :
    (board.syncThrough ids snapshot).report =
      ⟨ids.countP fun id => board.answer? id snapshot == some (.ok true),
        ids.countP (fun id => (board.widget? id).isNone) +
          ids.countP fun id => (board.answer? id snapshot).any (!·.isOk)⟩ := by
  rw [(syncThrough_outcomes distinct once snapshot).1, counted, outcomes_rendered,
    outcomes_failed, Nat.zero_add, Nat.zero_add]

/-- Which targets there are and how many of them answer something does not depend on their
order. -/
theorem syncThrough_handedOut {board : Board W} (distinct : board.Distinct) {ids : List String}
    (order : ids.Perm targets) (snapshot : Snapshot) :
    board.HandedOut snapshot (board.syncThrough ids snapshot) where
  target id member := by
    rw [syncThrough_widget distinct (order.nodup_iff.mpr targets_once),
      if_pos (order.mem_iff.mpr member)]
  other id away := by
    rw [syncThrough_widget distinct (order.nodup_iff.mpr targets_once),
      if_neg fun member => away (order.mem_iff.mp member)]
  failures := by
    rw [syncThrough_report distinct (order.nodup_iff.mpr targets_once)]
    simp only [order.countP_eq]
  rendered := by
    rw [syncThrough_report distinct (order.nodup_iff.mpr targets_once)]
    simp only [order.countP_eq]

/-- A pass through the targets in another order ends the same. -/
theorem syncThrough_perm {board : Board W} (distinct : board.Distinct) {ids : List String}
    (order : ids.Perm targets) (snapshot : Snapshot) :
    (board.syncThrough ids snapshot).board = (board.syncAll snapshot).board ∧
      (board.syncThrough ids snapshot).report = (board.syncAll snapshot).report := by
  have once : ids.Nodup := order.nodup_iff.mpr targets_once
  unfold syncAll
  constructor
  · have places : (board.syncThrough ids snapshot).board.places =
        (board.syncThrough targets snapshot).board.places := by
      rw [syncThrough_places distinct once, syncThrough_places distinct targets_once]
      simp only [order.mem_iff]
    exact ext_places places
  · rw [syncThrough_report distinct once, syncThrough_report distinct targets_once]
    simp only [order.countP_eq]

end Board

theorem readout_update_again (number : Readout) (value : Nat) :
    (number.update value).2.update value = (false, (number.update value).2) := by
  have holds : (number.update value).2.value = value := by
    unfold Readout.update
    split
    · assumption
    · rfl
  rw [Readout.update, if_pos holds]

theorem readout_update_field (number : Readout) (value : Nat) :
    (number.update value).2.field = number.field := by
  unfold Readout.update
  split <;> rfl

theorem bank_put_again (bank : RegisterBank) (values : Vector UInt8 16) :
    (bank.put values).2.put values = (false, (bank.put values).2) := by
  have given : (bank.put values).2.given = some values := by
    unfold RegisterBank.put
    split
    · assumption
    · rfl
  rw [RegisterBank.put, if_pos given]

theorem line_put_again (line : ListingLine) (content : LineContent) :
    (line.put content).2.put content = (false, (line.put content).2) := by
  rw [ListingLine.put, if_pos (line_put_content line content)]

theorem zipWith_again {V A : Type} (update : V → A → Bool × V)
    (again : ∀ widget value,
      update (update widget value).2 value = (false, (update widget value).2))
    (widgets : List V) (values : List A) :
    let updated := List.zipWith (fun widget value => (update widget value).2) widgets values
    List.zipWith update updated values = updated.map (Prod.mk false) := by
  induction widgets generalizing values with
  | nil => rfl
  | cons widget later ih =>
      cases values with
      | nil => rfl
      | cons value others =>
          simp only [List.zipWith_cons_cons, List.map_cons, again, ih others]

/-- The pane already has as many lines as the listing, and each holds its word. -/
theorem pane_update_again (pane : ListingPane) (programCounter : UInt16)
    (listing : List ListedWord) :
    (pane.update programCounter listing).2.update programCounter listing =
      (false, (pane.update programCounter listing).2) := by
  have lines := pane_update_lines pane programCounter listing
  have count := pane_update_length pane programCounter listing
  generalize (pane.update programCounter listing).2 = updated at lines count
  have kept := zipWith_again (fun line listed => line.put (.ofListed programCounter listed))
    (fun line listed => line_put_again line _) (pane.resize listing.length).2.lines listing
  rw [← lines] at kept
  unfold ListingPane.update ListingPane.resize
  rw [if_pos count]
  dsimp only at kept ⊢
  rw [kept, List.map_map, List.any_map]
  simp [Function.comp_def]

theorem readout_sync_again (number : Readout) (snapshot : Snapshot) :
    (number.sync snapshot).2.sync snapshot =
      ((number.sync snapshot).1.map fun _ => false, (number.sync snapshot).2) := by
  cases followed : number.field with
  | none => simp only [Readout.sync, followed, Except.map]
  | some field =>
      simp only [Readout.sync, followed, readout_update_field, readout_update_again, Except.map]

/-- A gauge holds what it was given last, so that the same snapshot draws nothing. -/
theorem gauge_sync_again (gauge : Gauge) (snapshot : Snapshot) :
    (gauge.sync snapshot).2.sync snapshot =
      ((gauge.sync snapshot).1.map fun _ => false, (gauge.sync snapshot).2) := by
  cases gauge with
  | readout number =>
      exact congrArg (outcomeFor Gauge.readout) (readout_sync_again number snapshot)
  | registers bank =>
      simp only [Gauge.sync, outcomeFor, bank_sync_eq_put, bank_put_again, Except.map]
  | listing pane =>
      simp only [Gauge.sync, outcomeFor, ListingPane.sync, pane_update_again, Except.map]

namespace Board

theorem answer_again {board : Board Gauge} (distinct : board.Distinct) {ids : List String}
    (once : ids.Nodup) {id : String} (member : id ∈ ids) (snapshot : Snapshot) :
    (board.syncThrough ids snapshot).board.answer? id snapshot =
      (board.answer? id snapshot).map fun answer => answer.map fun _ => false := by
  unfold answer?
  rw [syncThrough_widget distinct once, if_pos member, Option.map_map, Option.map_map]
  congr 1
  funext gauge
  exact congrArg Prod.fst (gauge_sync_again gauge snapshot)

/-- A board of gauges that was given a snapshot is not changed by the same snapshot, and none of
its surfaces is drawn again. -/
theorem syncThrough_again {board : Board Gauge} (distinct : board.Distinct) {ids : List String}
    (once : ids.Nodup) (snapshot : Snapshot) :
    let synced := (board.syncThrough ids snapshot).board
    (synced.syncThrough ids snapshot).report.rendered = 0 ∧
      (synced.syncThrough ids snapshot).board = synced := by
  intro synced
  have stillDistinct : synced.Distinct := syncThrough_distinct distinct once snapshot
  constructor
  · rw [syncThrough_report stillDistinct once]
    apply List.countP_eq_zero.mpr
    intro id member
    rw [answer_again distinct once member]
    rcases board.answer? id snapshot with _ | _ | _ <;> simp [Except.map]
  · apply ext_places
    rw [syncThrough_places stillDistinct once, syncThrough_places distinct once, List.map_map]
    apply List.map_congr_left
    intro place _
    by_cases member : place.1 ∈ ids
    · simp only [Function.comp_apply, if_pos member]
      have kept := congrArg Prod.snd (gauge_sync_again place.2 snapshot)
      exact congrArg (Prod.mk place.1) kept
    · simp only [Function.comp_apply, if_neg member]

/-- Whatever widgets a board was furnished with, and whatever they answer: the targets in any
order make the same board and the same report of a snapshot, with each target brought up to date
on its own and counted by its own answer. A board of the inspector's own gauges draws nothing when
it gets the same snapshot again. -/
theorem handed_out_in_any_order {W : Type} [Widget W] (changes : List (BoardChange W))
    (ownChanges : List (BoardChange Gauge)) (snapshot : Snapshot) {ids : List String}
    (order : ids.Perm targets) :
    let board := empty.furnish changes
    let synced := board.syncThrough ids snapshot
    let own := ((empty.furnish ownChanges).syncThrough ids snapshot).board
    synced.board = (board.syncAll snapshot).board ∧
      synced.report = (board.syncAll snapshot).report ∧
      board.HandedOut snapshot synced ∧
      (own.syncThrough ids snapshot).report.rendered = 0 ∧
      (own.syncThrough ids snapshot).board = own := by
  intro board synced own
  have distinct : board.Distinct := furnish_distinct empty_distinct changes
  have ownDistinct : (empty.furnish ownChanges).Distinct :=
    furnish_distinct empty_distinct ownChanges
  have once : ids.Nodup := order.nodup_iff.mpr targets_once
  obtain ⟨sameBoard, sameReport⟩ := syncThrough_perm distinct order snapshot
  obtain ⟨quiet, kept⟩ := syncThrough_again ownDistinct once snapshot
  exact ⟨sameBoard, sameReport, syncThrough_handedOut distinct order snapshot, quiet, kept⟩

/-- A target that refuses, one that is replaced, one that is taken away, and a widget under an id
of its own. -/
def mixedChanges : List (BoardChange (Gauge ⊕ Signpost)) :=
  [.mount (.inl (.readout .soundTimer)), .mount (.inr ⟨"sound-timer", .ok true, {}⟩),
    .mount (.inl (.readout .programCounter)), .mount (.inl (.registers .make)),
    .unmount "variable-registers",
    .mount (.inr ⟨"delay-timer", .error (.unbound "delay-timer"), {}⟩),
    .mount (.inl (.readout (.register ⟨3, by decide⟩)))]

def fewGauges : List (BoardChange Gauge) :=
  [.mount (.readout .programCounter), .mount (.listing .make), .unmount "partial-disassembler"]

theorem mixed_board_backwards :
    let snapshot := { Snapshot.blank with programCounter := 0x202 }
    let board := empty.furnish mixedChanges
    let synced := board.syncThrough targets.reverse snapshot
    let own := ((empty.furnish fewGauges).syncThrough targets.reverse snapshot).board
    (board.syncAll snapshot).report = ⟨2, 4⟩ ∧ targets.reverse.Perm targets ∧
      synced.board = (board.syncAll snapshot).board ∧
      synced.report = (board.syncAll snapshot).report ∧
      board.HandedOut snapshot synced ∧
      (own.syncThrough targets.reverse snapshot).report.rendered = 0 ∧
      (own.syncThrough targets.reverse snapshot).board = own := by
  intro snapshot
  have order : targets.reverse.Perm targets := List.reverse_perm targets
  exact ⟨by decide, order, handed_out_in_any_order mixedChanges fewGauges snapshot order⟩

end Board

end Chip8Inspector
