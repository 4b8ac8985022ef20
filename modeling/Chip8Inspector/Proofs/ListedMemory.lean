import Chip8Inspector.Proofs.ListingWindow
import Chip8Inspector.Proofs.ProgramBounds

/-!
# The listing shows memory as it is

A window lists every second address from its first to its last, and for each the two bytes that
memory holds there. Inside the program area these are the bytes of the program taken last, however
many steps were made, since a step writes to the display page alone.
-/

namespace Chip8Inspector

set_option autoImplicit false

namespace Memory

theorem pair_bytes {memory : Memory} {address : Nat} {high low : UInt8}
    (read : memory.pair? address = some (high, low)) :
    address + 1 < 4096 ∧ memory.bytes[address]? = some high ∧
      memory.bytes[address + 1]? = some low := by
  unfold pair? at read
  split at read
  · next fits =>
      cases read
      exact ⟨fits, Vector.getElem?_eq_getElem _, Vector.getElem?_eq_getElem _⟩
  · cases read

end Memory

namespace Walker

/-- What is listed of a location: the bytes there, and the text of the word that they make. -/
structure Lists (walker : Walker) (location : Nat) (word : ListedWord) : Prop where
  place : word.location.toNat = location
  high : walker.memory.bytes[location]? = some word.high
  low : walker.memory.bytes[location + 1]? = some word.low
  text : word.text = listingText (wordOfBytes word.high word.low)

theorem listedWord_lists {walker : Walker} {location : Nat} {word : ListedWord}
    (listed : walker.listedWord? location = some word) : walker.Lists location word := by
  obtain ⟨⟨high, low⟩, read, rfl⟩ := Option.map_eq_some_iff.mp listed
  obtain ⟨fits, first, second⟩ := Memory.pair_bytes read
  have whole : (UInt16.ofNat location).toNat = location := by
    rw [UInt16.toNat_ofNat']
    exact Nat.mod_eq_of_lt (by omega)
  exact ⟨whole, first, second, rfl⟩

/-- The address of the first line. -/
def firstListed (walker : Walker) (window : Window) : Nat :=
  walker.programCounter.toNat - 2 * window.before

/-- No line lies behind this address, the last at which memory holds a whole word. -/
def lastListed (walker : Walker) (window : Window) : Nat :=
  min (walker.programCounter.toNat + 2 * window.after) 4094

theorem listedLocations_eq (walker : Walker) (window : Window) :
    walker.listedLocations window =
      List.range' (walker.firstListed window)
        ((walker.lastListed window + 2 - walker.firstListed window) / 2) 2 :=
  rfl

theorem listedLocations_get (walker : Walker) (window : Window) (index : Nat) :
    (walker.listedLocations window)[index]? =
      if walker.firstListed window + 2 * index ≤ walker.lastListed window then
        some (walker.firstListed window + 2 * index)
      else none := by
  rw [listedLocations_eq]
  by_cases inside : walker.firstListed window + 2 * index ≤ walker.lastListed window
  · rw [if_pos inside, List.getElem?_range' (by omega)]
  · rw [if_neg inside, List.getElem?_eq_none]
    rw [List.length_range']
    omega

theorem listedLocations_count (walker : Walker)
    (inside : walker.programCounter.toNat + 1 < 4096) (window : Window) :
    1 ≤ (walker.listedLocations window).length ∧
      (walker.listedLocations window).length ≤ window.before + window.after + 1 := by
  rw [listedLocations_eq, List.length_range']
  unfold firstListed lastListed
  omega

/-- The lines of a snapshot are those of its locations, in their order. -/
theorem snapshot_lists {walker : Walker} {window : Window} {snapshot : Snapshot}
    (taken : walker.snapshot window = .ok snapshot) :
    List.Forall₂ walker.Lists (walker.listedLocations window) snapshot.listing :=
  (snapshot_taken taken).2.imp fun _ _ listed => listedWord_lists listed

theorem lists_locations {walker : Walker} {locations : List Nat} {listing : List ListedWord}
    (lists : List.Forall₂ walker.Lists locations listing) :
    listing.map (fun word => word.location.toNat) = locations := by
  induction lists with
  | nil => rfl
  | cons first later ih => rw [List.map_cons, ih, first.place]

theorem lists_own {walker : Walker} {locations : List Nat} {listing : List ListedWord}
    (lists : List.Forall₂ walker.Lists locations listing) :
    ∀ word ∈ listing, walker.Lists word.location.toNat word := by
  induction lists with
  | nil => exact nofun
  | cons first later ih =>
      rw [List.forall_mem_cons]
      exact ⟨first.place.symm ▸ first, ih⟩

/-- The program area holds the program that was taken last, and zeros behind it. -/
theorem carries_area {walker : Walker} {program : Option Program}
    (carries : walker.Carries program) {address : Nat} (low : 0x200 ≤ address)
    (high : address < 0xea0) :
    walker.memory.bytes[address]? = some (((program.getD #[])[address - 0x200]?).getD 0) := by
  have inMemory : address < 4096 := by omega
  have byte : walker.memory.bytes.get ⟨address, inMemory⟩ = _ :=
    Memory.byte_area carries.memory carries.fits low high
  rw [Vector.getElem?_eq_getElem inMemory]
  exact congrArg some byte

/-- Whatever a new walker went through, with any number of steps, and for every window: a snapshot
is taken. Its lines stand at every second address from the first to the last that the window
reaches, cut off at the ends of memory; there is at least one, and no more than the window asks
for. Each shows the two bytes of memory at its address and the text of the word that they make, and
in the program area memory holds the program taken last with zeros behind it. -/
theorem listing_shows_memory (calls : List MachineCall) (window : Window) :
    let walker := Machine.replay fresh calls
    let program := (Machine.grants fresh calls).getLast?.getD #[]
    let counter := walker.programCounter.toNat
    let first := counter - 2 * window.before
    let last := min (counter + 2 * window.after) 4094
    (∃ snapshot, (Machine.snapshot walker window).1 = .ok snapshot ∧
      1 ≤ snapshot.listing.length ∧
      snapshot.listing.length ≤ window.before + window.after + 1 ∧
      (∀ index, (snapshot.listing[index]?).map (fun word => word.location.toNat) =
        if first + 2 * index ≤ last then some (first + 2 * index) else none) ∧
      ∀ word ∈ snapshot.listing,
        walker.memory.bytes[word.location.toNat]? = some word.high ∧
        walker.memory.bytes[word.location.toNat + 1]? = some word.low ∧
        word.text = listingText (wordOfBytes word.high word.low)) ∧
    ∀ address, 0x200 ≤ address → address < 0xea0 →
      walker.memory.bytes[address]? = some ((program[address - 0x200]?).getD 0) := by
  intro walker program counter first last
  have carries : walker.Carries (Machine.grants fresh calls).getLast? := fresh_grants calls
  obtain ⟨snapshot, taken⟩ := walker.snapshot_succeeds window
  have lists := snapshot_lists taken
  obtain ⟨atLeast, atMost⟩ := walker.listedLocations_count (carries_inside carries) window
  rw [← lists_locations lists, List.length_map] at atLeast atMost
  refine ⟨⟨snapshot, taken, atLeast, atMost, ?_, ?_⟩, fun address => carries_area carries⟩
  · intro index
    rw [← List.getElem?_map, lists_locations lists]
    exact walker.listedLocations_get window index
  · intro word member
    have own := lists_own lists word member
    exact ⟨own.high, own.low, own.text⟩

end Walker

end Chip8Inspector
