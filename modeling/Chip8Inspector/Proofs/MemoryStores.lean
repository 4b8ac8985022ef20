import Chip8Inspector.Proofs.MemoryContents

/-!
# The last store to an address is what memory holds there

Bytes are laid into memory, an area is filled, a byte of the display page is set, a program is
loaded: each of these stores is granted as a whole or refused as a whole. A granted store says for
every address it covers which byte it puts there, whatever memory held before. So the byte at an
address is the one that the last granted store covering it put there.
-/

namespace Chip8Inspector

set_option autoImplicit false

namespace Memory

/-- One change that is asked of memory. -/
inductive Store where
  | write (start : Nat) (data : Array UInt8)
  | fill (start length : Nat) (byte : UInt8)
  | light (offset : Nat) (byte : UInt8)
  | load (program : Program)

/-- Whether there is room: inside memory, on the display page, or in the program area. -/
def Store.fits : Store → Bool
  | .write start data => start + data.size ≤ 4096
  | .fill start length _ => start + length ≤ 4096
  | .light offset _ => offset < 256
  | .load program => program.size ≤ 3232

/-- The byte that a store puts at an address, if it covers it. A program covers the whole program
area, with zeros behind its end, and the display page. -/
def Store.puts? (address : Nat) : Store → Option UInt8
  | .write start data => if start ≤ address then data[address - start]? else none
  | .fill start length byte =>
      if start ≤ address ∧ address < start + length then some byte else none
  | .light offset byte => if address = 0xf00 + offset then some byte else none
  | .load program =>
      if 0x200 ≤ address ∧ address ≤ 0xe9f then some ((program[address - 0x200]?).getD 0)
      else if 0xf00 ≤ address then some 0
      else none

/-- What the last of the granted stores that cover an address puts there. -/
def lastPut? (stores : List Store) (address : Nat) : Option UInt8 :=
  (stores.filter Store.fits).reverse.findSome? (Store.puts? address)

/-- What new memory holds at an address. -/
def firstByte (address : Nat) : UInt8 :=
  if 0x50 ≤ address ∧ address ≤ 0x9f then (font[address - 0x50]?).getD 0 else 0

/-- Memory after a store, if it is granted. -/
def perform? (memory : Memory) : Store → Option Memory
  | .write start data => memory.write? start data
  | .fill start length byte => memory.fill? start length byte
  | .light offset byte => memory.setDisplay? offset byte
  | .load program => (memory.load program).toOption

def perform (memory : Memory) (store : Store) : Memory :=
  (memory.perform? store).getD memory

def performAll (memory : Memory) (stores : List Store) : Memory :=
  stores.foldl perform memory

theorem byte_write (memory : Memory) (start : Nat) (data : Array UInt8) (address : Fin 4096) :
    (memory.overlay start data).bytes.get address =
      ((Store.write start data).puts? address).getD (memory.bytes.get address) := by
  rw [byte_overlay, Store.puts?]
  split <;> rfl

theorem byte_fill (memory : Memory) (start length : Nat) (byte : UInt8) (address : Fin 4096) :
    (memory.blanket start (start + length) byte).bytes.get address =
      ((Store.fill start length byte).puts? address).getD (memory.bytes.get address) := by
  rw [byte_blanket, Store.puts?]
  split <;> rfl

theorem byte_light (memory : Memory) (offset : Nat) (byte : UInt8) (address : Fin 4096) :
    (memory.overlay (displayStart + offset) #[byte]).bytes.get address =
      ((Store.light offset byte).puts? address).getD (memory.bytes.get address) := by
  rw [byte_overlay, Store.puts?, displayStart]
  by_cases here : address.val = 0xf00 + offset
  · rw [if_pos here, if_pos (Nat.le_of_eq here.symm), here, Nat.sub_self]
    rfl
  · rw [if_neg here]
    split
    · next behind =>
        have past : 1 ≤ address.val - (0xf00 + offset) := by omega
        rw [Array.getElem?_eq_none past, Option.getD_none]
    · rfl

theorem byte_load (memory : Memory) {program : Program} (fits : program.size ≤ capacity)
    (address : Fin 4096) :
    (((memory.blanket programStart stackStart 0).overlay programStart
      program).clearDisplay).bytes.get address =
      ((Store.load program).puts? address).getD (memory.bytes.get address) := by
  have inArea : address.val < stackStart ↔ address.val ≤ 0xe9f := Nat.lt_succ_iff
  rw [byte_loaded memory fits, Store.puts?]
  simp only [inArea, displayStart, programStart]
  by_cases page : 0xf00 ≤ address.val
  · have outside : ¬(0x200 ≤ address.val ∧ address.val ≤ 0xe9f) := by omega
    rw [if_pos page, if_neg outside, if_pos page, Option.getD_some]
  · rw [if_neg page, if_neg page]
    split <;> rfl

/-- A store that has room is granted. -/
theorem perform_granted (memory : Memory) {store : Store} (fits : store.fits = true) :
    ∃ stored, memory.perform? store = some stored ∧
      ∀ address : Fin 4096, stored.bytes.get address =
        (store.puts? address).getD (memory.bytes.get address) := by
  cases store with
  | write start data =>
      have room : start + data.size ≤ size := of_decide_eq_true fits
      exact ⟨_, if_pos room, memory.byte_write start data⟩
  | fill start length byte =>
      have room : start + length ≤ size := of_decide_eq_true fits
      exact ⟨_, if_pos room, memory.byte_fill start length byte⟩
  | light offset byte =>
      have room : offset < displaySize := of_decide_eq_true fits
      exact ⟨_, if_pos room, memory.byte_light offset byte⟩
  | load program =>
      have room : program.size ≤ capacity := of_decide_eq_true fits
      refine ⟨_, ?_, memory.byte_load room⟩
      rw [perform?, load, if_neg (Nat.not_lt.mpr room)]
      rfl

theorem perform_refused (memory : Memory) {store : Store} (tooLarge : store.fits = false) :
    memory.perform? store = none := by
  cases store with
  | write start data => exact if_neg (of_decide_eq_false tooLarge)
  | fill start length byte => exact if_neg (of_decide_eq_false tooLarge)
  | light offset byte => exact if_neg (of_decide_eq_false tooLarge)
  | load program =>
      have large : capacity < program.size := Nat.not_le.mp (of_decide_eq_false tooLarge)
      rw [perform?, load_too_large large]
      rfl

/-- What one store leaves at an address. -/
theorem byte_perform (memory : Memory) (store : Store) (address : Fin 4096) :
    (memory.perform store).bytes.get address =
      (lastPut? [store] address).getD (memory.bytes.get address) := by
  cases fits : store.fits with
  | true =>
      obtain ⟨stored, granted, bytes⟩ := memory.perform_granted fits
      simp [perform, granted, bytes, lastPut?, fits]
  | false => simp [perform, memory.perform_refused fits, lastPut?, fits]

theorem lastPut_cons (store : Store) (later : List Store) (address : Nat) :
    lastPut? (store :: later) address =
      (lastPut? later address).or (lastPut? [store] address) := by
  unfold lastPut?
  rw [← List.findSome?_append, ← List.reverse_append, ← List.filter_append, List.singleton_append]

/-- What any number of stores leaves at an address, by induction on the stores. -/
theorem byte_performAll (memory : Memory) (stores : List Store) (address : Fin 4096) :
    (memory.performAll stores).bytes.get address =
      (lastPut? stores address).getD (memory.bytes.get address) := by
  induction stores generalizing memory with
  | nil => rfl
  | cons store later ih =>
      have whole : memory.performAll (store :: later) = (memory.perform store).performAll later :=
        rfl
      rw [whole, ih, byte_perform, lastPut_cons store later]
      cases lastPut? later address <;> rfl

theorem byte_initial (address : Fin 4096) : initial.bytes.get address = firstByte address := by
  have blank : (Vector.replicate 4096 (0 : UInt8)).get address = 0 :=
    Vector.getElem_replicate address.isLt
  unfold initial firstByte
  rw [byte_overlay, blank, fontStart]
  have rows : font.size = 80 := rfl
  by_cases behind : 0x50 ≤ address.val
  · rw [if_pos behind]
    by_cases inside : address.val ≤ 0x9f
    · rw [if_pos ⟨behind, inside⟩]
    · rw [if_neg (by omega), Array.getElem?_eq_none (by omega)]
      rfl
  · rw [if_neg behind, if_neg (by omega)]

theorem word_eq (memory : Memory) (address : Nat) (whole : address + 1 < 4096) :
    ∃ word, memory.word? address = some word ∧
      word.toNat = 256 * (memory.bytes.get ⟨address, Nat.lt_of_succ_lt whole⟩).toNat +
        (memory.bytes.get ⟨address + 1, whole⟩).toNat := by
  refine ⟨_, ?_, toNat_wordOfBytes _ _⟩
  rw [word?, pair?, dif_pos whole]
  rfl

theorem word_eq_none (memory : Memory) {address : Nat} (cut : 4094 < address) :
    memory.word? address = none := by
  rw [word?, pair?, dif_neg (by omega)]
  rfl

/-- After any sequence of stores to new memory, granted and refused ones: a store is granted exactly
if it has room, and changes nothing if it is refused. Every byte is the one that the last granted
store covering its address put there, or that of new memory if there was none. The word at an
address is made of the byte there and the one behind it, up to the last address that has one. -/
theorem last_store_wins (stores : List Store) :
    let memory := initial.performAll stores
    (∀ store, ((memory.perform? store).isSome ↔ store.fits = true) ∧
      (store.fits = false → memory.perform store = memory)) ∧
      (∀ address : Fin 4096, memory.bytes.get address =
        (lastPut? stores address).getD (firstByte address)) ∧
      (∀ address, (whole : address + 1 < 4096) → ∃ word, memory.word? address = some word ∧
        word.toNat = 256 * (memory.bytes.get ⟨address, Nat.lt_of_succ_lt whole⟩).toNat +
          (memory.bytes.get ⟨address + 1, whole⟩).toNat) ∧
      ∀ address, 4094 < address → memory.word? address = none := by
  intro memory
  refine ⟨fun store => ⟨⟨fun granted => ?_, fun fits => ?_⟩, fun tooLarge => ?_⟩,
    fun address => ?_, memory.word_eq, fun _ cut => memory.word_eq_none cut⟩
  · cases fits : store.fits with
    | true => rfl
    | false => simp [memory.perform_refused fits] at granted
  · obtain ⟨stored, granted, -⟩ := memory.perform_granted fits
    simp [granted]
  · simp [perform, memory.perform_refused tooLarge]
  · rw [← byte_initial]
    exact initial.byte_performAll stores address

end Memory

end Chip8Inspector
