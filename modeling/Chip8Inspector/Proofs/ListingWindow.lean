import Chip8Inspector.Proofs.WalkerAnswers
import Mathlib.Data.List.Forall2
import Mathlib.Data.List.Nodup

/-!
# What the listing of a walker lists

A snapshot lists one word for every location of its window, in their order. The locations are all
an even number of bytes apart. Counted back from the program counter they meet it again, whatever
its parity; cut off at the start of memory they are even, and an odd program counter that is near
enough to the start is not among them.
-/

namespace Chip8Inspector

set_option autoImplicit false

namespace Walker

theorem mapM_listed {walker : Walker} {locations : List Nat} {listing : List ListedWord}
    (known : locations.mapM walker.listedWord? = some listing) :
    List.Forall₂ (fun location word => walker.listedWord? location = some word)
      locations listing := by
  induction locations generalizing listing with
  | nil =>
      cases known
      exact .nil
  | cons location rest ih =>
      rw [List.mapM_cons] at known
      obtain ⟨word, first, later⟩ := Option.bind_eq_some_iff.mp known
      obtain ⟨words, others, whole⟩ := Option.bind_eq_some_iff.mp later
      cases whole
      exact .cons first (ih others)

theorem snapshot_taken {walker : Walker} {window : Window} {snapshot : Snapshot}
    (taken : walker.snapshot window = .ok snapshot) :
    snapshot.programCounter = walker.programCounter ∧
      List.Forall₂ (fun location word => walker.listedWord? location = some word)
        (walker.listedLocations window) snapshot.listing := by
  unfold Walker.snapshot at taken
  split at taken
  · cases taken
  · next listing known =>
      cases taken
      exact ⟨rfl, mapM_listed known⟩

theorem listedWord_location {walker : Walker} {location : Nat} {word : ListedWord}
    (listed : walker.listedWord? location = some word) :
    word.location = UInt16.ofNat location := by
  obtain ⟨bytes, -, rfl⟩ := Option.map_eq_some_iff.mp listed
  rfl

theorem listed_locations {walker : Walker} {locations : List Nat} {listing : List ListedWord}
    (listed : List.Forall₂ (fun location word => walker.listedWord? location = some word)
      locations listing) :
    listing.map ListedWord.location = locations.map UInt16.ofNat := by
  induction listed with
  | nil => rfl
  | cons first later ih => rw [List.map_cons, List.map_cons, listedWord_location first, ih]

theorem listedLocations_nodup (walker : Walker) (window : Window) :
    (walker.listedLocations window).Nodup :=
  List.nodup_range' 2

/-- The locations are cut off at the start of memory, and an odd program counter is not one of
them. -/
def MissesItself (walker : Walker) (window : Window) : Prop :=
  walker.programCounter.toNat % 2 = 1 ∧ walker.programCounter.toNat < 2 * window.before

instance (walker : Walker) (window : Window) : Decidable (walker.MissesItself window) :=
  inferInstanceAs (Decidable (_ ∧ _))

theorem counter_listed_iff {walker : Walker} (inside : walker.programCounter.toNat + 1 < 4096)
    (window : Window) :
    walker.programCounter.toNat ∈ walker.listedLocations window ↔
      ¬ walker.MissesItself window := by
  have size : Memory.size = 4096 := rfl
  unfold listedLocations MissesItself
  dsimp only
  rw [List.mem_range', size]
  generalize walker.programCounter.toNat = counter at inside
  constructor
  · rintro ⟨index, -, step⟩
    omega
  · intro met
    -- Cut off at the start the locations are the even ones, so the counter must be even as well.
    by_cases cut : counter < 2 * window.before
    · exact ⟨counter / 2, by omega, by omega⟩
    · exact ⟨window.before, by omega, by omega⟩

/-- An address of memory is told by its sixteen bits. -/
theorem ofNat_beq_counter {location : Nat} (bound : location + 1 < 4096) (counter : UInt16) :
    (UInt16.ofNat location == counter) = (location == counter.toNat) := by
  have whole : (UInt16.ofNat location).toNat = location := by
    rw [UInt16.toNat_ofNat']
    exact Nat.mod_eq_of_lt (by omega)
  rw [Bool.eq_iff_iff, beq_iff_eq, beq_iff_eq, ← UInt16.toNat_inj, whole]

/-- At most one word of a listing is the one at the program counter, and there is none only if the
window misses it. -/
theorem current_words {walker : Walker} (inside : walker.programCounter.toNat + 1 < 4096)
    {window : Window} {snapshot : Snapshot} (taken : walker.snapshot window = .ok snapshot) :
    (snapshot.listing.map ListedWord.location).filter (· == snapshot.programCounter) =
      if walker.MissesItself window then [] else [walker.programCounter] := by
  obtain ⟨counter, listed⟩ := snapshot_taken taken
  have sameTest : ∀ location ∈ walker.listedLocations window,
      (UInt16.ofNat location == walker.programCounter) =
        (location == walker.programCounter.toNat) :=
    fun _ member => ofNat_beq_counter (listed_location_bound walker window member) _
  rw [counter, listed_locations listed, List.filter_map]
  simp only [Function.comp_def]
  rw [List.filter_congr sameTest, List.filter_beq, (listedLocations_nodup walker window).count]
  by_cases missed : walker.MissesItself window
  · rw [if_neg fun member => (counter_listed_iff inside window).mp member missed, if_pos missed]
    rfl
  · rw [if_pos ((counter_listed_iff inside window).mpr missed), if_neg missed]
    simp

end Walker

end Chip8Inspector
