import LinkCharset.Proofs.Codec.Alike
import LinkCharset.Proofs.Transcode.Block

/-! # Runs that count in words

A run whose block lies in memory and whose counts and positions are words of 64 bits. It never
leaves the bounds of a slice, and it is the run that counts in numbers, unless it asks for more
memory than there can be: a block of memory is so much smaller than words can tell that no sum
wraps, but for one. What a codec reports to have written may be any word, and is added to the
position of the output before the sum is clamped. -/
namespace LinkCharset

def Conversion.IsWord (report : Conversion) : Prop :=
  report.read < UInt64.size ∧ report.written < UInt64.size

instance : DecidablePred Conversion.IsWord := fun report =>
  inferInstanceAs (Decidable (report.read < UInt64.size ∧ report.written < UInt64.size))

/-- Of slices that memory can hold, a codec reports words, whatever it has converted before. -/
def Codec.ReportsWords {σ : Type} (c : Codec σ) (opened : σ) : Prop :=
  ∀ codec, c.ReachableFrom opened codec → ∀ given room, given.length ≤ addressLimit →
    room ≤ addressLimit → (c.convert codec given room).1.IsWord

def ComesTo {α : Type} (x : Except Fault α) (a : α) : Prop := x = .ok a ∨ x = .error .outOfMemory

namespace Words

variable {σ : Type}

structure State (σ : Type) where
  remaining : Bytes
  block : Block
  invalid : UInt64
  tooShort : UInt64
  codec : σ

inductive Turn (σ : Type) where
  | done (trace : Trace) (result : Except TranscodeError Transcoded) (codec : σ)
  | more (trace : Trace) (next : State σ)

def Turn.after (before : Trace) : Turn σ → Turn σ
  | .done trace result codec => .done (before ++ trace) result codec
  | .more trace next => .more (before ++ trace) next

def heed (s : State σ) (report : Conversion) (codec : σ) : Except Fault (Trace × State σ) := do
  let slice ← s.block.spare
  let slice' := overlay slice report.output
  let remaining ← sliceFrom s.remaining (min (.ofNat report.read) (lengthWord s.remaining))
  return ([.call (.convert s.remaining slice.length report), .converted (slice'.take report.written)],
    { s with
      remaining
      block := (s.block.overwrite slice').advance (.ofNat report.written)
      codec })

def call (c : Codec σ) (s : State σ) : Except Fault (Status × Trace × State σ) := do
  let slice ← s.block.spare
  let (report, codec) := c.convert s.codec s.remaining slice.length
  let (calling, next) ← heed s report codec
  return (report.status, calling, next)

def grewBuffer (k : Block) (inputLeft : UInt64) : Event :=
  .grewBuffer k.written.toNat k.capacity.toNat (k.grownCapacity inputLeft).toNat

def copy (k : Block) (byte : UInt8) (inputLeft : UInt64) : Except Fault (Trace × Block) :=
  if k.written = k.capacity then do
    let grown ← k.grow inputLeft
    return ([.event (grewBuffer k inputLeft), .copied byte], ← grown.put byte)
  else do
    return ([.copied byte], ← k.put byte)

def notice (total : UInt64) (s : State σ) : Trace :=
  if s.invalid = 0 then [.event (.metMalformed (total - lengthWord s.remaining).toNat)] else []

def skip (total : UInt64) (s : State σ) : Except Fault (Turn σ) :=
  match s.remaining with
  | [] => return .done [] (.ok s.block.finish) s.codec
  | byte :: rest => do
    let (copying, block) ← copy s.block byte (lengthWord (byte :: rest))
    let next := { s with remaining := rest, block, invalid := s.invalid + 1 }
    if rest.isEmpty then return .done (notice total s ++ copying) (.ok block.finish) s.codec
    else return .more (notice total s ++ copying) next

def react (total : UInt64) (status : Status) (s : State σ) : Except Fault (Turn σ) :=
  match status with
  | .complete =>
    return .done [.event (.transcoded total.toNat s.block.written.toNat s.invalid.toNat
      s.tooShort.toNat)] (.ok s.block.finish) s.codec
  | .outputFull => do
    let block ← s.block.grow (lengthWord s.remaining)
    return .more [.event (grewBuffer s.block (lengthWord s.remaining))]
      { s with block, tooShort := s.tooShort + 1 }
  | .failed code => return .done [.event (.codecFailed code)] (.error (.codec code)) s.codec
  | .invalid | .incomplete => skip total s

def turn (c : Codec σ) (total : UInt64) (s : State σ) : Except Fault (Turn σ) := do
  let (status, calling, next) ← call c s
  return (← react total status next).after calling

def runFrom (c : Codec σ) (total : UInt64) : ℕ → State σ → Except Fault (Option (Run σ))
  | 0, _ => return none
  | limit + 1, s => do
    match ← turn c total s with
    | .done trace result codec => return some ⟨trace, result, codec⟩
    | .more trace next =>
      return (← runFrom c total limit next).map fun run => { run with trace := trace ++ run.trace }

def run? (c : Codec σ) (limit : ℕ) (codec : σ) (input : Bytes) : Except Fault (Option (Run σ)) := do
  let block ← Block.forInput (lengthWord input)
  if input.isEmpty then return some ⟨[], .ok block.finish, codec⟩
  else runFrom c (lengthWord input) limit ⟨input, block, 0, 0, codec⟩

inductive Reaches (c : Codec σ) (codec : σ) (input : Bytes) : State σ → Prop where
  | start {block : Block} (allocated : Block.forInput (lengthWord input) = .ok block) :
    Reaches c codec input ⟨input, block, 0, 0, codec⟩
  | turn {s next : State σ} {trace : Trace} (before : Reaches c codec input s)
      (goesOn : turn c (lengthWord input) s = .ok (.more trace next)) :
    Reaches c codec input next

end Words

namespace Transcode

variable {σ : Type} {c : Codec σ} {total : ℕ} {s : Cursor σ}

def moved (s : Cursor σ) (report : Conversion) (codec : σ) : Cursor σ :=
  { s with
    remaining := s.remaining.drop report.read
    buffer := (s.buffer.fill report.output).advance report.written
    codec }

def inWords (s : Cursor σ) : Words.State σ :=
  ⟨s.remaining, s.buffer.block, .ofNat s.invalid, .ofNat s.tooShort, s.codec⟩

def Turn.inWords : Turn σ → Words.Turn σ
  | .done trace result codec => .done trace result codec
  | .more trace next => .more trace (Transcode.inWords next)

@[simp] theorem Turn.inWords_after (before : Trace) (t : Turn σ) :
    (t.after before).inWords = t.inWords.after before := by
  cases t <;> rfl

/-- The block of a run has its memory, and counts nothing that is not in the input or has not made
the block larger. -/
structure Fits (total : ℕ) (s : Cursor σ) : Prop where
  allocated : s.buffer.capacity < addressLimit
  spent : s.invalid + s.remaining.length ≤ total
  grown : 2 * (total + s.tooShort) ≤ s.buffer.capacity

namespace Fits

variable (fits : Fits total s)
include fits

theorem left : 2 * s.remaining.length ≤ s.buffer.capacity := by
  have spent := fits.spent
  have grown := fits.grown
  omega

theorem toNat_ofNat {n : ℕ} (le : n ≤ s.buffer.capacity) : (UInt64.ofNat n).toNat = n :=
  UInt64.toNat_ofNat_of_lt' (le.trans_lt (Buffer.capacity_lt_size fits.allocated))

theorem toNat_total : (UInt64.ofNat total).toNat = total :=
  fits.toNat_ofNat (by have grown := fits.grown; omega)

theorem toNat_invalid : (UInt64.ofNat s.invalid).toNat = s.invalid :=
  fits.toNat_ofNat (by have spent := fits.spent; have grown := fits.grown; omega)

theorem toNat_tooShort : (UInt64.ofNat s.tooShort).toNat = s.tooShort :=
  fits.toNat_ofNat (by have grown := fits.grown; omega)

theorem input : 2 * total < addressLimit := by
  have grown := fits.grown
  have allocated := fits.allocated
  omega

theorem addressable : s.remaining.length ≤ addressLimit := by
  have left := fits.left
  have allocated := fits.allocated
  omega

theorem heed {report : Conversion} (read : report.read < UInt64.size) (codec : σ) :
    Words.heed (inWords s) report codec =
      .ok ([.call (.convert s.remaining s.buffer.room report),
        .converted ((s.buffer.fill report.output).front report.written)],
        inWords (moved s report codec)) := by
  have filled : (s.buffer.fill report.output).capacity < addressLimit := by
    rw [Buffer.capacity_fill]
    exact fits.allocated
  rw [Words.heed, inWords, Buffer.spare_block fits.allocated, ok_bind,
    sliceFrom_min fits.addressable read, ok_bind, Buffer.overwrite_block fits.allocated,
    Buffer.advance_block filled, Buffer.length_spare, Buffer.front_eq, Buffer.spare_fill]
  rfl

theorem moved (report : Conversion) (codec : σ) : Fits total (moved s report codec) := by
  have capacity : (Transcode.moved s report codec).buffer.capacity = s.buffer.capacity :=
    (Buffer.capacity_advance _ _).trans (Buffer.capacity_fill _ _)
  have shorter : (s.remaining.drop report.read).length ≤ s.remaining.length := by simp
  refine ⟨capacity ▸ fits.allocated, ?_, capacity ▸ fits.grown⟩
  exact (Nat.add_le_add_left shorter _).trans fits.spent

theorem notice_eq : Words.notice (.ofNat total) (inWords s) = notice total s := by
  have none : (inWords s).invalid = 0 ↔ s.invalid = 0 := by
    rw [← UInt64.toNat_inj, inWords, fits.toNat_invalid, UInt64.toNat_zero]
  have inside : lengthWord s.remaining ≤ UInt64.ofNat total := by
    rw [UInt64.le_iff_toNat_le, toNat_lengthWord fits.addressable, fits.toNat_total]
    have spent := fits.spent
    omega
  have offset : (UInt64.ofNat total - lengthWord (inWords s).remaining).toNat =
      total - s.remaining.length := by
    rw [inWords, UInt64.toNat_sub_of_le _ _ inside, toNat_lengthWord fits.addressable,
      fits.toNat_total]
  rw [Words.notice, notice, offset]
  exact if_congr none rfl rfl

theorem grow (larger : s.buffer.grownCapacity s.remaining.length < addressLimit) :
    Fits total { s with
      buffer := s.buffer.grow s.remaining.length
      tooShort := s.tooShort + 1 } := by
  refine ⟨?_, fits.spent, ?_⟩
  · rw [Buffer.capacity_grow]
    exact larger
  · have grown := fits.grown
    rw [Buffer.capacity_grow, Buffer.grownCapacity]
    change 2 * (total + (s.tooShort + 1)) ≤ _
    omega

end Fits

/-- The sizes that a growth is logged with. -/
theorem grewBuffer_block {b : Buffer} (allocated : b.capacity < addressLimit) {inputLeft : ℕ}
    (left : 2 * inputLeft ≤ b.capacity) :
    Words.grewBuffer b.block (.ofNat inputLeft) = (grow b inputLeft).1 := by
  rw [Words.grewBuffer, Buffer.toNat_written allocated, Buffer.toNat_capacity allocated,
    Buffer.toNat_grownCapacity allocated left]
  rfl

theorem copy_block {b : Buffer} (allocated : b.capacity < addressLimit) (byte : UInt8) {rest : Bytes}
    (left : 2 * (rest.length + 1) ≤ b.capacity) :
    Words.copy b.block byte (lengthWord (byte :: rest)) = .error .outOfMemory ∧
        addressLimit ≤ b.grownCapacity (rest.length + 1) ∨
      Words.copy b.block byte (lengthWord (byte :: rest)) =
          .ok ((copy b byte rest).1, (copy b byte rest).2.block) ∧
        (copy b byte rest).2.capacity < addressLimit ∧ b.capacity ≤ (copy b byte rest).2.capacity := by
  have test : b.block.written = b.block.capacity ↔ b.isFull = true := by
    rw [← UInt64.toNat_inj, Buffer.toNat_written allocated, Buffer.toNat_capacity allocated,
      Buffer.capacity, Buffer.isFull, beq_iff_eq]
    omega
  rw [Words.copy, copy]
  by_cases full : b.isFull = true
  · rw [if_pos (test.mpr full), if_pos full]
    have grown := Buffer.grow_block allocated left
    change b.block.grow (lengthWord (byte :: rest)) = _ at grown
    by_cases larger : b.grownCapacity (rest.length + 1) < addressLimit
    · have had : (b.grow (rest.length + 1)).capacity < addressLimit := by
        rw [Buffer.capacity_grow]
        exact larger
      have roomy : 0 < (b.grow (rest.length + 1)).room := by
        rw [Buffer.room_grow]
        omega
      have capacity := Buffer.capacity_put roomy byte
      have more : b.capacity ≤ (b.grow (rest.length + 1)).capacity := by
        rw [Buffer.capacity_grow]
        exact Nat.le_add_right _ _
      refine .inr ⟨?_, capacity ▸ had, capacity ▸ more⟩
      rw [grown, if_pos larger, ok_bind, Buffer.put_block had roomy, ok_bind]
      change Except.ok ([Note.event (Words.grewBuffer _ (.ofNat (rest.length + 1))), _], _) = _
      rw [grewBuffer_block allocated left]
      rfl
    · rw [grown, if_neg larger]
      exact .inl ⟨rfl, Nat.le_of_not_lt larger⟩
  · have roomy : 0 < b.room := by simpa [Buffer.isFull, Nat.pos_iff_ne_zero] using full
    have capacity := Buffer.capacity_put roomy byte
    rw [if_neg (mt test.mp full), if_neg full, Buffer.put_block allocated roomy, ok_bind]
    exact .inr ⟨rfl, capacity ▸ allocated, capacity.ge⟩

/-- How the rest of a turn comes out in words: it lacks the memory that a growth of the buffer asks
for, or it is as it is in numbers and leaves a cursor whose block has its memory. -/
inductive Follows (total : ℕ) (s : Cursor σ) (t : Turn σ) : Except Fault (Words.Turn σ) → Prop where
  | outOfMemory (lacks : addressLimit ≤ s.buffer.grownCapacity s.remaining.length) :
    Follows total s t (.error .outOfMemory)
  | inWords (fits : ∀ trace next, t = .more trace next → Fits total next) :
    Follows total s t (.ok t.inWords)

theorem Follows.eq_inWords {t : Turn σ} {x : Words.Turn σ} (follows : Follows total s t (.ok x)) :
    x = t.inWords ∧ ∀ trace next, t = .more trace next → Fits total next := by
  cases follows with
  | inWords fits => exact ⟨rfl, fits⟩

theorem Follows.lacks {t : Turn σ} {fault : Fault} (follows : Follows total s t (.error fault)) :
    fault = .outOfMemory ∧ addressLimit ≤ s.buffer.grownCapacity s.remaining.length := by
  cases follows with
  | outOfMemory lacks => exact ⟨rfl, lacks⟩

theorem Follows.after {t : Turn σ} {x : Except Fault (Words.Turn σ)} (follows : Follows total s t x)
    (before : Trace) : Follows total s (t.after before) (x >>= fun t => pure (t.after before)) := by
  cases follows with
  | outOfMemory lacks => exact .outOfMemory lacks
  | inWords fits =>
    rw [ok_bind, ← Turn.inWords_after]
    refine .inWords fun trace next goesOn => ?_
    cases t with
    | done => cases goesOn
    | more => cases goesOn; exact fits _ _ rfl

namespace Fits

variable (fits : Fits total s)
include fits

theorem skip : Follows total s (skip total s) (Words.skip (.ofNat total) (inWords s)) := by
  rw [Words.skip, Transcode.skip]
  change Follows total s _ (match s.remaining with | [] => _ | byte :: rest => _)
  cases front : s.remaining with
  | nil =>
    simp only [inWords, Buffer.finish_block fits.allocated]
    exact .inWords fun trace next goesOn => by cases goesOn
  | cons byte rest =>
    have left := fits.left
    rw [front, List.length_cons] at left
    rcases copy_block fits.allocated byte left with ⟨stops, lacks⟩ | ⟨copied, allocated, larger⟩
    · simp only [inWords, stops]
      exact .outOfMemory (front ▸ lacks)
    · have finished := Buffer.finish_block allocated
      have noticed := fits.notice_eq
      rw [inWords] at noticed ⊢
      simp only [copied, ok_bind, noticed, finished]
      by_cases nothing : rest.isEmpty = true
      · rw [if_pos nothing, if_pos nothing]
        exact .inWords fun trace next goesOn => by cases goesOn
      · rw [if_neg nothing, if_neg nothing, ← UInt64.ofNat_one, ← UInt64.ofNat_add]
        refine .inWords fun trace next goesOn => ?_
        cases goesOn
        have spent := fits.spent
        rw [front, List.length_cons] at spent
        refine ⟨allocated, ?_, fits.grown.trans larger⟩
        change s.invalid + 1 + rest.length ≤ total
        omega

theorem react (status : Status) :
    Follows total s (react total status s) (Words.react (.ofNat total) status (inWords s)) := by
  cases status with
  | complete =>
    rw [Words.react, inWords, fits.toNat_total, fits.toNat_invalid, fits.toNat_tooShort,
      Buffer.toNat_written fits.allocated, Buffer.finish_block fits.allocated]
    exact .inWords fun trace next goesOn => by cases goesOn
  | outputFull =>
    have grown := Buffer.grow_block fits.allocated fits.left
    have logged := grewBuffer_block fits.allocated fits.left
    rw [Words.react, inWords, Transcode.react]
    change Follows total s _ (s.buffer.block.grow (.ofNat s.remaining.length) >>= _)
    rw [grown]
    by_cases larger : s.buffer.grownCapacity s.remaining.length < addressLimit
    · rw [if_pos larger, ok_bind]
      change Follows total s _ (.ok (.more [.event (Words.grewBuffer _ (.ofNat _))] _))
      rw [logged, ← UInt64.ofNat_one, ← UInt64.ofNat_add]
      exact .inWords fun trace next goesOn => by cases goesOn; exact fits.grow larger
    · rw [if_neg larger]
      exact .outOfMemory (Nat.le_of_not_lt larger)
  | failed code => exact .inWords fun trace next goesOn => by cases goesOn
  | invalid => exact fits.skip
  | incomplete => exact fits.skip

end Fits

/-- A codec that reports words is offered slices that memory can hold, and its turn is the one in
numbers. -/
theorem Fits.turn {opened : σ} (words : c.ReportsWords opened) (fits : Fits total s)
    (reachable : c.ReachableFrom opened s.codec) :
    Follows total (call c s).2.2 (turn c total s) (Words.turn c (.ofNat total) (inWords s)) := by
  have room : s.buffer.room ≤ addressLimit := (Nat.le_add_left _ _).trans fits.allocated.le
  have word := words _ reachable s.remaining s.buffer.room fits.addressable room
  have heeded := fits.heed word.1 (c.convert s.codec s.remaining s.buffer.room).2
  have spare : (inWords s).block.spare = .ok s.buffer.spare := Buffer.spare_block fits.allocated
  rw [Words.turn, Words.call, spare, ok_bind, Buffer.length_spare]
  change Follows total _ _ ((Words.heed (inWords s) (c.convert s.codec s.remaining s.buffer.room).1
    (c.convert s.codec s.remaining s.buffer.room).2 >>= _) >>= _)
  rw [heeded]
  exact ((fits.moved _ _).react _).after _

theorem reachable_turn {opened : σ} (reachable : c.ReachableFrom opened s.codec) {trace : Trace}
    {next : Cursor σ} (goesOn : turn c total s = .more trace next) :
    c.ReachableFrom opened next.codec := by
  have after := codec_turn c total s
  rw [goesOn, Turn.codec] at after
  exact after ▸ reachable.convert _ _

theorem runFrom_inWords {opened : σ} (words : c.ReportsWords opened) (fits : Fits total s)
    (reachable : c.ReachableFrom opened s.codec) (limit : ℕ) :
    ComesTo (Words.runFrom c (.ofNat total) limit (inWords s)) (runFrom c total limit s) := by
  induction limit generalizing s with
  | zero => exact .inl rfl
  | succ limit ih =>
    have follows := fits.turn words reachable
    rw [Words.runFrom, runFrom]
    generalize Words.turn c (.ofNat total) (inWords s) = x at follows
    cases follows with
    | outOfMemory => exact .inr rfl
    | inWords next =>
      rw [ok_bind]
      cases turned : turn c total s with
      | done trace result codec => exact .inl rfl
      | more trace behind =>
        simp only [Turn.inWords]
        rcases ih (next trace behind turned) (reachable_turn reachable turned) with stops | lacks
        · rw [stops]
          exact .inl rfl
        · rw [lacks]
          exact .inr rfl

theorem fits_start (codec : σ) {input : Bytes} (fits : 2 * input.length < addressLimit) :
    Fits input.length (start codec input) where
  allocated := by
    rw [start, Buffer.capacity_forInput]
    exact fits
  spent := (Nat.zero_add _).le
  grown := by
    rw [start, Buffer.capacity_forInput]
    rfl

theorem run?_inWords {codec : σ} {input : Bytes} (words : c.ReportsWords codec)
    (addressable : input.length ≤ addressLimit) (limit : ℕ) :
    ComesTo (Words.run? c limit codec input) (run? c limit codec input) := by
  rw [Words.run?, lengthWord, Buffer.forInput_block addressable]
  by_cases fits : 2 * input.length < addressLimit
  · have begins := fits_start codec fits
    rw [if_pos fits, ok_bind, run?]
    by_cases nothing : input.isEmpty = true
    · obtain rfl := List.isEmpty_iff.mp nothing
      exact .inl rfl
    · rw [if_neg nothing, if_neg nothing]
      exact runFrom_inWords words begins .opened limit
  · rw [if_neg fits]
    exact .inr rfl

/-- A state that a run in words comes to is one that the run in numbers comes to. -/
theorem exists_cursor {codec : σ} {input : Bytes} (words : c.ReportsWords codec)
    (addressable : input.length ≤ addressLimit) {state : Words.State σ}
    (reached : Words.Reaches c codec input state) :
    ∃ s, state = inWords s ∧ Fits input.length s ∧ c.ReachableFrom codec s.codec := by
  induction reached with
  | start allocated =>
    rw [lengthWord, Buffer.forInput_block addressable] at allocated
    split at allocated
    · rename_i fits
      cases allocated
      exact ⟨start codec input, rfl, fits_start codec fits, .opened⟩
    · cases allocated
  | turn before goesOn ih =>
    rcases ih with ⟨s, rfl, fits, reachable⟩
    have follows := fits.turn words reachable
    rw [lengthWord] at goesOn
    rw [goesOn] at follows
    rcases follows.eq_inWords with ⟨same, next⟩
    cases turned : turn c input.length s with
    | done =>
      rw [turned] at same
      cases same
    | more trace behind =>
      rw [turned] at same
      cases same
      exact ⟨behind, rfl, next _ _ turned, reachable_turn reachable turned⟩

end Transcode

end LinkCharset
