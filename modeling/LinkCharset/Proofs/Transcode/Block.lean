import LinkCharset.Proofs.Transcode.Ledger

/-! # The block in memory

The buffer as memory and a position in it, where positions and sizes are words of 64 bits. Sums of
words wrap, a slice has to lie in its memory, and no memory is larger than half of what words can
tell apart. None of that shows in a buffer, whose sizes are numbers: each operation on the block is
shown to do what the buffer does, as long as the memory asked for can be had. -/
namespace LinkCharset

/-- What stops a program that works on memory. -/
inductive Fault where
  /-- A position outside of its slice. -/
  | outOfBounds
  /-- A size that no memory has. -/
  | outOfMemory
  deriving DecidableEq, Repr

theorem ok_bind {α β : Type} (a : α) (f : α → Except Fault β) : (Except.ok a >>= f) = f a := rfl

/-- The size of the largest memory, and so of the largest slice. -/
def addressLimit : ℕ := 2 ^ 63 - 1

def lengthWord (slice : Bytes) : UInt64 := .ofNat slice.length

def sliceFrom (slice : Bytes) (position : UInt64) : Except Fault Bytes :=
  if position.toNat ≤ slice.length then .ok (slice.drop position.toNat) else .error .outOfBounds

def sliceTo (slice : Bytes) (position : UInt64) : Except Fault Bytes :=
  if position.toNat ≤ slice.length then .ok (slice.take position.toNat) else .error .outOfBounds

/-- Memory of some size that starts with given bytes and goes on with zeros. It is asked for with a
byte more, for the terminator. -/
def allocate (kept : Bytes) (size : UInt64) : Except Fault Bytes :=
  if (size + 1).toNat ≤ addressLimit ∧ size.toNat ≤ addressLimit then
    .ok (kept.take size.toNat ++ List.replicate (size.toNat - kept.length) 0)
  else .error .outOfMemory

structure Block where
  memory : Bytes
  /-- The position behind what has been produced. -/
  written : UInt64
  deriving DecidableEq, Repr

namespace Block

def capacity (k : Block) : UInt64 := lengthWord k.memory

def produced (k : Block) : Bytes := k.memory.take k.written.toNat

/-- Twice a word, or the largest one. -/
def double (n : UInt64) : UInt64 := .ofNat (min (2 * n.toNat) (UInt64.size - 1))

def forInput (length : UInt64) : Except Fault Block := do
  return ⟨← allocate [] (double length), 0⟩

def spare (k : Block) : Except Fault Bytes := sliceFrom k.memory k.written

def overwrite (k : Block) (slice : Bytes) : Block := { k with memory := k.produced ++ slice }

/-- Adds to the position, which wraps, and clamps the sum to the capacity. -/
def advance (k : Block) (n : UInt64) : Block := { k with written := min k.capacity (k.written + n) }

def grownCapacity (k : Block) (inputLeft : UInt64) : UInt64 := k.capacity + 2 * max inputLeft 1

def grow (k : Block) (inputLeft : UInt64) : Except Fault Block := do
  let kept ← sliceTo k.memory k.written
  return { k with memory := ← allocate kept (k.grownCapacity inputLeft) }

def put (k : Block) (byte : UInt8) : Except Fault Block :=
  if k.written.toNat < k.memory.length then
    .ok ⟨k.memory.set k.written.toNat byte, k.written + 1⟩
  else .error .outOfBounds

def finish (k : Block) : Transcoded := ⟨k.produced ++ [0]⟩

end Block

theorem toNat_lengthWord {slice : Bytes} (addressable : slice.length ≤ addressLimit) :
    (lengthWord slice).toNat = slice.length :=
  UInt64.toNat_ofNat_of_lt' (by simp only [addressLimit, UInt64.size] at *; omega)

/-- The byte for the terminator never wraps to a size that can be had. -/
theorem allocate_eq (kept : Bytes) {size : UInt64} {n : ℕ} (asked : size.toNat = n) :
    allocate kept size =
      if n < addressLimit then .ok (kept.take n ++ List.replicate (n - kept.length) 0)
      else .error .outOfMemory := by
  have word := size.toNat_lt
  have had : (size + 1).toNat ≤ addressLimit ∧ n ≤ addressLimit ↔ n < addressLimit := by
    rw [asked] at word
    rw [UInt64.toNat_add, UInt64.toNat_one, asked, addressLimit]
    omega
  rw [allocate, asked]
  exact if_congr had rfl rfl

theorem sliceFrom_min {slice : Bytes} (addressable : slice.length ≤ addressLimit) {read : ℕ}
    (word : read < UInt64.size) :
    sliceFrom slice (min (.ofNat read) (lengthWord slice)) = .ok (slice.drop read) := by
  rw [sliceFrom, UInt64.toNat_min, toNat_lengthWord addressable, UInt64.toNat_ofNat_of_lt' word,
    if_pos (Nat.min_le_right _ _)]
  exact congrArg _ (List.drop_eq_drop_iff.mpr (by omega))

namespace Buffer

theorem capacity_fill (b : Buffer) (output : Bytes) : (b.fill output).capacity = b.capacity := by
  rw [capacity, room_fill]
  rfl

def block (b : Buffer) : Block := ⟨b.produced ++ b.spare, .ofNat b.written⟩

theorem length_memory (b : Buffer) : b.block.memory.length = b.capacity := by
  simp [block, capacity]

variable {b : Buffer}

theorem written_le_memory (b : Buffer) : b.written ≤ b.block.memory.length := by
  rw [length_memory]
  exact Nat.le_add_right _ _

theorem memory_take (b : Buffer) (n : ℕ) : (b.take n).block.memory = b.block.memory := by
  have behind : (b.take n).spare = b.spare.drop n := by simp [take, spare, List.drop_append]
  simp only [block, produced_take, behind, List.append_assoc, List.take_append_drop]

theorem memory_split (b : Buffer) (n : ℕ) : (b.split n).block.memory = b.block.memory := by
  simp [block, split, produced, spare]

theorem memory_advance (b : Buffer) (n : ℕ) : (b.advance n).block.memory = b.block.memory := by
  rw [advance]
  split
  · exact memory_take b n
  · exact memory_split b _

theorem capacity_advance (b : Buffer) (n : ℕ) : (b.advance n).capacity = b.capacity := by
  rw [← length_memory, memory_advance, length_memory]

theorem written_split (b : Buffer) (n : ℕ) : (b.split n).written = min n b.capacity := by
  simp [split, written, capacity]

theorem produced_eq_take (b : Buffer) : b.produced = b.block.memory.take b.written := by
  rw [block, List.take_left' (length_produced b)]

/-- What has been produced stays so just if the position does not go back. -/
theorem produced_prefix_advance_iff (n : ℕ) :
    b.produced <+: (b.advance n).produced ↔ b.written ≤ (b.advance n).written := by
  constructor
  · intro kept
    simpa using kept.length_le
  · intro onward
    rw [produced_eq_take, produced_eq_take (b.advance n), memory_advance]
    exact List.take_prefix_take_left onward

theorem capacity_forInput (length : ℕ) : (forInput length).capacity = 2 * length := by
  simp [forInput, capacity, written, room]

/-- The length of an input is doubled as it is: no word is too small for it, but memory may be. -/
theorem forInput_block {length : ℕ} (addressable : length ≤ addressLimit) :
    Block.forInput (.ofNat length) =
      if 2 * length < addressLimit then .ok (forInput length).block else .error .outOfMemory := by
  rw [addressLimit] at addressable
  have given : (UInt64.ofNat length).toNat = length :=
    UInt64.toNat_ofNat_of_lt' (by rw [UInt64.size]; omega)
  have doubled : (Block.double (.ofNat length)).toNat = 2 * length := by
    rw [Block.double, given, Nat.min_eq_left (by rw [UInt64.size]; omega)]
    exact UInt64.toNat_ofNat_of_lt' (by rw [UInt64.size]; omega)
  rw [Block.forInput, allocate_eq [] doubled]
  by_cases fits : 2 * length < addressLimit
  · rw [if_pos fits, if_pos fits, List.take_nil]
    rfl
  · rw [if_neg fits, if_neg fits]
    rfl

section Allocated

variable (allocated : b.capacity < addressLimit)
include allocated

theorem capacity_lt_size : b.capacity < UInt64.size := by
  rw [addressLimit] at allocated
  rw [UInt64.size]
  omega

theorem toNat_capacity : b.block.capacity.toNat = b.capacity := by
  rw [Block.capacity, toNat_lengthWord (by rw [length_memory]; exact allocated.le), length_memory]

theorem toNat_written : b.block.written.toNat = b.written :=
  UInt64.toNat_ofNat_of_lt' ((Nat.le_add_right _ _).trans_lt (capacity_lt_size allocated))

theorem produced_block : b.block.produced = b.produced := by
  rw [Block.produced, toNat_written allocated, ← produced_eq_take]

theorem finish_block : b.block.finish = b.finish := by
  rw [Block.finish, produced_block allocated, finish]

theorem spare_block : b.block.spare = .ok b.spare := by
  rw [Block.spare, sliceFrom, toNat_written allocated, if_pos (written_le_memory b), block,
    List.drop_left' (length_produced b)]

theorem overwrite_block (output : Bytes) :
    b.block.overwrite (overlay b.spare output) = (b.fill output).block := by
  rw [Block.overwrite, produced_block allocated, block, block, spare_fill, produced_fill]
  rfl

theorem written_advance (n : ℕ) :
    (b.advance n).written = min b.capacity ((b.written + n) % UInt64.size) := by
  by_cases fits : n ≤ b.room
  · have inside : b.written + n ≤ b.capacity := Nat.add_le_add_left fits _
    have made := congrArg List.length (produced_advance fits)
    rw [length_produced, List.length_append, length_produced, List.length_take, length_spare,
      Nat.min_eq_left fits] at made
    rw [made, Nat.mod_eq_of_lt (inside.trans_lt (capacity_lt_size allocated)),
      Nat.min_eq_right inside]
  · rw [advance, if_neg fits, written_split, Nat.min_eq_left (Nat.min_le_left _ _), wordSize]

theorem advance_block (n : ℕ) : b.block.advance (.ofNat n) = (b.advance n).block := by
  have sum : (b.block.written + .ofNat n).toNat = (b.written + n) % UInt64.size := by
    rw [block, ← UInt64.ofNat_add]
    exact UInt64.toNat_ofNat'
  have position : min b.block.capacity (b.block.written + .ofNat n) = (b.advance n).block.written := by
    rw [← UInt64.toNat_inj, UInt64.toNat_min, toNat_capacity allocated, sum,
      toNat_written (by rwa [capacity_advance]), written_advance allocated]
  rw [Block.advance, position, ← memory_advance b n]

theorem sliceTo_block : sliceTo b.block.memory b.block.written = .ok b.produced := by
  rw [sliceTo, toNat_written allocated, if_pos (written_le_memory b), ← produced_eq_take]

variable {inputLeft : ℕ} (left : 2 * inputLeft ≤ b.capacity)
include left

theorem toNat_grownCapacity :
    (b.block.grownCapacity (.ofNat inputLeft)).toNat = b.grownCapacity inputLeft := by
  rw [addressLimit] at allocated
  have given : (UInt64.ofNat inputLeft).toNat = inputLeft :=
    UInt64.toNat_ofNat_of_lt' (by rw [UInt64.size]; omega)
  rw [Block.grownCapacity, UInt64.toNat_add, toNat_capacity allocated, UInt64.toNat_mul, UInt64.toNat_max,
    given, grownCapacity]
  change (b.capacity + 2 * max inputLeft 1 % 2 ^ 64) % 2 ^ 64 = _
  omega

theorem grow_block : b.block.grow (.ofNat inputLeft) =
    if b.grownCapacity inputLeft < addressLimit then .ok (b.grow inputLeft).block
    else .error .outOfMemory := by
  have kept : b.produced.take (b.grownCapacity inputLeft) = b.produced := by
    refine List.take_of_length_le ?_
    rw [length_produced, grownCapacity, capacity]
    omega
  have zeros : b.grownCapacity inputLeft - b.produced.length = b.room + 2 * max inputLeft 1 := by
    rw [length_produced, grownCapacity, capacity]
    omega
  have had : allocate b.produced (b.block.grownCapacity (.ofNat inputLeft)) =
      if b.grownCapacity inputLeft < addressLimit then .ok (b.grow inputLeft).block.memory
      else .error .outOfMemory := by
    rw [allocate_eq _ (toNat_grownCapacity allocated left), kept, zeros]
    rfl
  rw [Block.grow, sliceTo_block allocated, ok_bind, had]
  by_cases fits : b.grownCapacity inputLeft < addressLimit
  · rw [if_pos fits, if_pos fits]
    rfl
  · rw [if_neg fits, if_neg fits]
    rfl

end Allocated

/-- What stands behind the position makes way for a byte. -/
theorem spare_eq_cons (roomy : 0 < b.room) (byte : UInt8) :
    ∃ old, b.spare = old :: (b.put byte).spare := by
  rw [put]
  cases leftover : b.leftover with
  | nil =>
    obtain ⟨zeros, some⟩ : ∃ zeros, b.zeros = zeros + 1 :=
      Nat.exists_eq_succ_of_ne_zero (by rw [room, leftover, List.length_nil] at roomy; omega)
    exact ⟨0, by simp [spare, leftover, some, List.replicate_succ]⟩
  | cons old leftover => exact ⟨old, by simp [spare, leftover]⟩

theorem put_block (allocated : b.capacity < addressLimit) (roomy : 0 < b.room) (byte : UInt8) :
    b.block.put byte = .ok (b.put byte).block := by
  have inside : b.written < b.block.memory.length := by
    rw [length_memory, capacity]
    omega
  rcases spare_eq_cons roomy byte with ⟨old, spare⟩
  rw [Block.put, toNat_written allocated, if_pos inside]
  simp [block, spare, produced_put, UInt64.ofNat_add]

end Buffer

end LinkCharset
