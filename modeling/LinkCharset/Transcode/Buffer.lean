import LinkCharset.Bytes

/-! # The output buffer

A block of bytes of which a first part has been produced; the rest is the room offered to the
codec. A block that runs full is replaced by one that is larger by twice the input left. The room
is zero but for what a codec leaves there, so that its zeros are only counted. -/
namespace LinkCharset

/-- Finished output: the produced bytes and one zero byte after them. -/
structure Transcoded where
  terminated : Bytes
  deriving DecidableEq, Repr

namespace Transcoded

def length (t : Transcoded) : Nat := t.terminated.length - 1

/-- The produced bytes, without the terminator. -/
def bytes (t : Transcoded) : Bytes := t.terminated.take t.length

@[simp] theorem bytes_mk (produced : Bytes) : (⟨produced ++ [0]⟩ : Transcoded).bytes = produced := by
  simp [bytes, length]

end Transcoded

structure Buffer where
  /-- What has been produced, the latest byte first. -/
  backwards : Bytes
  /-- What a codec left at the start of the room without reporting it written. -/
  leftover : Bytes
  /-- How many zeros follow that. -/
  zeros : Nat
  deriving DecidableEq, Repr

namespace Buffer

/-- Starts with room for twice the input. -/
def forInput (length : Nat) : Buffer := ⟨[], [], 2 * length⟩

def produced (b : Buffer) : Bytes := b.backwards.reverse

def written (b : Buffer) : Nat := b.backwards.length

/-- How many bytes can still be produced. -/
def room (b : Buffer) : Nat := b.leftover.length + b.zeros

def capacity (b : Buffer) : Nat := b.written + b.room

@[simp] theorem length_produced (b : Buffer) : b.produced.length = b.written := by
  simp [produced, written]

/-- What stands in the room. -/
def spare (b : Buffer) : Bytes := b.leftover ++ List.replicate b.zeros 0

@[simp] theorem length_spare (b : Buffer) : b.spare.length = b.room := by
  simp [spare, room]

/-- The first `n` bytes of the room, or all of it. -/
def front (b : Buffer) (n : Nat) : Bytes :=
  b.leftover.take n ++ List.replicate (min (n - b.leftover.length) b.zeros) 0

theorem front_eq (b : Buffer) (n : Nat) : b.front n = b.spare.take n := by
  simp [front, spare, List.take_append]

/-- Puts bytes into the room without marking them as produced. -/
def fill (b : Buffer) (output : Bytes) : Buffer :=
  let placed := output.take b.room
  { b with
    leftover := placed ++ b.leftover.drop placed.length
    zeros := b.zeros - (placed.length - b.leftover.length) }

@[simp] theorem produced_fill (b : Buffer) (output : Bytes) :
    (b.fill output).produced = b.produced := rfl

@[simp] theorem room_fill (b : Buffer) (output : Bytes) : (b.fill output).room = b.room := by
  simp [fill, room]
  omega

/-- Leaves the first `n` bytes of the room to what has been produced. -/
def take (b : Buffer) (n : Nat) : Buffer :=
  ⟨(b.front n).reverseAux b.backwards, b.leftover.drop n, b.zeros - (n - b.leftover.length)⟩

theorem produced_take (b : Buffer) (n : Nat) :
    (b.take n).produced = b.produced ++ b.spare.take n := by
  simp [take, produced, front_eq, List.reverseAux_eq]

theorem room_take {b : Buffer} {n : Nat} (fits : n ≤ b.room) : (b.take n).room = b.room - n := by
  simp only [room] at fits
  simp [take, room]
  omega

/-- Parts the block after `n` bytes, whatever had been produced of it. -/
def split (b : Buffer) (n : Nat) : Buffer :=
  let contents := b.produced ++ b.spare
  ⟨(contents.take n).reverse, contents.drop n, 0⟩

/-- Marks `n` bytes of the room as produced. A count that fits the room is taken as it is; a larger
one is added as machine words are and clamped to the capacity. -/
def advance (b : Buffer) (n : Nat) : Buffer :=
  if n ≤ b.room then b.take n else b.split (min b.capacity ((b.written + n) % wordSize))

theorem produced_advance {b : Buffer} {n : Nat} (fits : n ≤ b.room) :
    (b.advance n).produced = b.produced ++ b.spare.take n := by
  simp [advance, fits, produced_take]

theorem room_advance {b : Buffer} {n : Nat} (fits : n ≤ b.room) :
    (b.advance n).room = b.room - n := by
  simp [advance, fits, room_take]

/-- The capacity after growing, given how much input is left. -/
def grownCapacity (b : Buffer) (inputLeft : Nat) : Nat := b.capacity + 2 * max inputLeft 1

/-- Moves the produced bytes into a larger block. -/
def grow (b : Buffer) (inputLeft : Nat) : Buffer :=
  ⟨b.backwards, [], b.room + 2 * max inputLeft 1⟩

@[simp] theorem produced_grow (b : Buffer) (inputLeft : Nat) :
    (b.grow inputLeft).produced = b.produced := rfl

@[simp] theorem room_grow (b : Buffer) (inputLeft : Nat) :
    (b.grow inputLeft).room = b.room + 2 * max inputLeft 1 := by
  simp [grow, room]

theorem capacity_grow (b : Buffer) (inputLeft : Nat) :
    (b.grow inputLeft).capacity = b.grownCapacity inputLeft := by
  simp [grow, capacity, room, written, grownCapacity, Nat.add_assoc]

def isFull (b : Buffer) : Bool := b.room == 0

/-- Produces one byte at the start of the room. -/
def put (b : Buffer) (byte : UInt8) : Buffer :=
  match b.leftover with
  | [] => ⟨byte :: b.backwards, [], b.zeros - 1⟩
  | _ :: leftover => ⟨byte :: b.backwards, leftover, b.zeros⟩

theorem produced_put (b : Buffer) (byte : UInt8) :
    (b.put byte).produced = b.produced ++ [byte] := by
  unfold put
  split <;> simp [produced]

def finish (b : Buffer) : Transcoded := ⟨b.produced ++ [0]⟩

@[simp] theorem bytes_finish (b : Buffer) : b.finish.bytes = b.produced := by
  simp [finish]

end Buffer

end LinkCharset
