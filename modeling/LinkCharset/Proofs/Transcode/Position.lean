import LinkCharset.Proofs.Transcode.Words

/-! # The position of the output

After a conversion call both cursors are clamped to their slices. The cursor of the input is clamped
before it moves, and moves as it does in numbers. What a codec reports to have written may be any
word, and is added to the position of the output before the sum is clamped: this sum is the one that
can wrap, and if it does, bytes that have been produced are so no longer. -/
namespace LinkCharset

namespace Words

variable {σ : Type}

def Turn.output? : Turn σ → Option Bytes
  | .done _ (.ok output) _ => some output.bytes
  | .done _ (.error _) _ => none
  | .more _ next => some next.block.produced

end Words

namespace Transcode

variable {σ : Type} {total : ℕ}

def Turn.output? : Turn σ → Option Bytes
  | .done _ (.ok output) _ => some output.bytes
  | .done _ (.error _) _ => none
  | .more _ next => some next.buffer.produced

theorem output?_inWords {t : Turn σ} (fits : ∀ trace next, t = .more trace next → Fits total next) :
    t.inWords.output? = t.output? := by
  cases t with
  | done trace result codec => cases result <;> rfl
  | more trace next => exact congrArg some (Buffer.produced_block (fits trace next rfl).allocated)

theorem produced_react (total : ℕ) (status : Status) (s : Cursor σ) :
    ∀ output ∈ (react total status s).output?, s.buffer.produced <+: output := by
  have skipped : ∀ output ∈ (skip total s).output?, s.buffer.produced <+: output := by
    rw [skip]
    cases s.remaining with
    | nil => simp [Turn.output?]
    | cons byte rest =>
      by_cases nothing : rest = [] <;> simp [nothing, Turn.output?, produced_copy]
  cases status with
  | complete => simp [react, Turn.output?]
  | outputFull => simp [react, grow, Turn.output?]
  | failed code => simp [react, Turn.output?]
  | invalid => exact skipped
  | incomplete => exact skipped

end Transcode

namespace Words

open Transcode (inWords moved)

variable {σ : Type} {c : Codec σ} {codec : σ} {input : Bytes}

/-- How a report moves the cursors of a state. -/
structure Moves (s : State σ) (report : Conversion) (next : State σ) : Prop where
  /-- The input is read as far as the report says, or to its end. -/
  remaining : next.remaining = s.remaining.drop (min s.remaining.length report.read)
  /-- The block stays as large as it is. -/
  length : next.block.memory.length = s.block.memory.length
  /-- The position is the sum of words, or the end of the block. -/
  written : next.block.written.toNat =
    min s.block.memory.length ((s.block.written.toNat + report.written) % UInt64.size)
  /-- The position is what it has to be in numbers just if the sum is a word. -/
  exact_iff : next.block.written.toNat =
      min s.block.memory.length (s.block.written.toNat + report.written) ↔
    s.block.written.toNat + report.written < UInt64.size
  /-- Just then, what has been produced stays so. -/
  keeps_iff : s.block.produced <+: next.block.produced ↔
    s.block.written.toNat + report.written < UInt64.size

/-- The block is so much smaller than words can tell that a sum that wraps ends in front of where it
began, and one that does not wrap is behind it or at the end of the block. -/
theorem moves_moved {total : ℕ} {s : Cursor σ} (fits : Transcode.Fits total s) {report : Conversion}
    (word : report.IsWord) (after : σ) :
    Moves (inWords s) report (inWords (moved s report after)) := by
  have here : (inWords s).block.written.toNat = s.buffer.written := Buffer.toNat_written fits.allocated
  have there : (inWords (moved s report after)).block.written.toNat =
      min s.buffer.capacity ((s.buffer.written + report.written) % UInt64.size) := by
    have filled := Buffer.capacity_fill s.buffer report.output
    have position := Buffer.toNat_written (fits.moved report after).allocated
    rw [← filled]
    exact position.trans (Buffer.written_advance (filled ▸ fits.allocated) _)
  have length : (inWords s).block.memory.length = s.buffer.capacity := Buffer.length_memory _
  have inside : s.buffer.written ≤ s.buffer.capacity := Nat.le_add_right _ _
  have bound := Buffer.capacity_lt_size fits.allocated
  have count := word.2
  have kept : (inWords s).block.produced <+: (inWords (moved s report after)).block.produced ↔
      s.buffer.written ≤ (inWords (moved s report after)).block.written.toNat := by
    have behind := (fits.moved report after).allocated
    rw [inWords, inWords, Buffer.produced_block fits.allocated, Buffer.produced_block behind,
      Buffer.toNat_written behind]
    exact Buffer.produced_prefix_advance_iff (b := s.buffer.fill report.output) report.written
  refine ⟨?_, ?_, ?_, ?_, ?_⟩
  · refine List.drop_eq_drop_iff.mpr ?_
    change min report.read s.remaining.length = min (min s.remaining.length report.read) s.remaining.length
    omega
  · exact (Buffer.length_memory _).trans (((Buffer.capacity_advance _ _).trans
      (Buffer.capacity_fill _ _)).trans length.symm)
  · rw [there, length, here]
  · rw [there, length, here]
    rw [UInt64.size] at bound count ⊢
    omega
  · rw [kept, there, here]
    rw [UInt64.size] at bound count ⊢
    omega

/-- A run that counts in words and keeps to the bounds of its slices is the run that counts in
numbers, unless it asks for more memory than there can be: for any codec that reports words, and
however long the run goes on. Wherever it stands, and whatever is reported there, both cursors are
clamped to their slices, the one of the input exactly. The one of the output is so just if the sum
of its position and of the count reported is a word; if the sum wraps, bytes that have been produced
are so no longer. Nothing else that a run does takes a byte back or leaves a slice, and sizes of
memory, the one for twice the input and those of larger blocks, are asked for as they are in
numbers. -/
theorem position_is_exact_unless_wrapped (words : c.ReportsWords codec)
    (addressable : input.length ≤ addressLimit) :
    ((∃ s, Reaches c codec input s) ↔ 2 * input.length < addressLimit) ∧
    (∀ limit, ComesTo (run? c limit codec input) (Transcode.run? c limit codec input)) ∧
    ∀ s, Reaches c codec input s →
      s.block.written.toNat ≤ s.block.memory.length ∧ s.block.memory.length < addressLimit ∧
      ∀ report : Conversion, report.IsWord → ∀ after,
        ∃ trace next, heed s report after = .ok (trace, next) ∧ Moves s report next ∧
          ∀ status,
            (∀ fault, react (lengthWord input) status next = .error fault → fault = .outOfMemory ∧
              addressLimit ≤ next.block.memory.length + 2 * max next.remaining.length 1) ∧
            ∀ t, react (lengthWord input) status next = .ok t →
              ∀ output ∈ t.output?, next.block.produced <+: output := by
  have allocated (fits : 2 * input.length < addressLimit) :
      Block.forInput (lengthWord input) = .ok (Buffer.forInput input.length).block := by
    rw [lengthWord, Buffer.forInput_block addressable, if_pos fits]
  refine ⟨⟨fun started => ?_, fun fits => ⟨_, .start (allocated fits)⟩⟩,
    Transcode.run?_inWords words addressable, fun s reached => ?_⟩
  · rcases started with ⟨s, reached⟩
    rcases Transcode.exists_cursor words addressable reached with ⟨s, -, fits, -⟩
    exact fits.input
  rcases Transcode.exists_cursor words addressable reached with ⟨s, rfl, fits, -⟩
  have length : (inWords s).block.memory.length = s.buffer.capacity := Buffer.length_memory _
  have inside : s.buffer.written ≤ s.buffer.capacity := Nat.le_add_right _ _
  refine ⟨?_, length ▸ fits.allocated, fun report word after => ?_⟩
  · rwa [length, inWords, Buffer.toNat_written fits.allocated]
  have behind := fits.moved report after
  refine ⟨_, _, fits.heed word.1 after, moves_moved fits word after, fun status => ?_⟩
  have follows := behind.react status
  change Transcode.Follows _ _ _ (react (lengthWord input) status _) at follows
  constructor
  · intro fault stops
    rw [stops] at follows
    rw [inWords, Buffer.length_memory]
    exact follows.lacks
  · intro t reacted output made
    rw [reacted] at follows
    rcases follows.eq_inWords with ⟨rfl, next⟩
    rw [Transcode.output?_inWords next] at made
    rw [inWords, Buffer.produced_block behind.allocated]
    exact Transcode.produced_react _ _ _ output made

end Words

def ScriptedStep.IsWord (step : ScriptedStep) : Prop :=
  (∀ n ∈ step.read, n < UInt64.size) ∧ ∀ n ∈ step.written, n < UInt64.size

instance : DecidablePred ScriptedStep.IsWord := fun step =>
  inferInstanceAs
    (Decidable ((∀ n ∈ step.read, n < UInt64.size) ∧ ∀ n ∈ step.written, n < UInt64.size))

theorem ScriptedStep.isWord_play {step : ScriptedStep} (word : step.IsWord) {given : Bytes} {room : ℕ}
    (given_le : given.length ≤ addressLimit) (room_le : room ≤ addressLimit) :
    (step.play given room).IsWord := by
  have limit : addressLimit < UInt64.size := by decide
  constructor
  · change step.read.getD given.length < UInt64.size
    cases read : step.read with
    | none => exact given_le.trans_lt limit
    | some n => exact word.1 n read
  · simp only [play]
    cases written : step.written with
    | none =>
      refine lt_of_le_of_lt ?_ (room_le.trans_lt limit)
      rw [Option.getD_none, List.length_take]
      exact Nat.min_le_left _ _
    | some n => exact word.2 n written

theorem Scripted.reportsWords {σ : Type} {inner : Codec σ} {script : List ScriptedStep} {starve : ℕ}
    {bad : UInt8} (words : ∀ step ∈ script, step.IsWord) :
    (Scripted.codec inner).ReportsWords (.ofScript script starve (.identity bad)) := by
  have limit : addressLimit < UInt64.size := by decide
  have kept : ∀ s, (Scripted.codec inner).ReachableFrom (.ofScript script starve (.identity bad)) s →
      s.script = script ∧ (∀ step ∈ s.pending, step.IsWord) ∧ s.fallback = .identity bad := by
    intro s reachable
    induction reachable with
    | opened => exact ⟨rfl, words, rfl⟩
    | @convert s before given room ih =>
      rcases ih with ⟨same, pending, copies⟩
      simp only [codec, Scripted.convert]
      split
      · rename_i step later here
        exact ⟨same, fun step made => pending step (here ▸ List.mem_cons_of_mem _ made), copies⟩
      · split
        · exact ⟨same, pending, copies⟩
        · rw [copies]
          exact ⟨same, pending, rfl⟩
    | @reset s before ih =>
      rcases ih with ⟨same, -, copies⟩
      refine ⟨same, ?_, ?_⟩
      · change ∀ step ∈ s.script, step.IsWord
        rwa [same]
      · change s.fallback.reset inner = _
        rw [copies]
        rfl
  intro s reachable given room given_le room_le
  rcases kept s reachable with ⟨-, pending, copies⟩
  simp only [codec, Scripted.convert]
  split
  · rename_i step later here
    exact ScriptedStep.isWord_play (pending step (here ▸ List.mem_cons_self)) given_le room_le
  · split
    · have nothing : 0 < UInt64.size := by decide
      exact ⟨nothing, nothing⟩
    · rw [copies]
      have output : ((given.takeWhile (· != bad)).take room).length < UInt64.size := by
        rw [List.length_take]
        exact ((Nat.min_le_left _ _).trans room_le).trans_lt limit
      exact ⟨output, output⟩

namespace Words

/-- A codec that converts a byte and then says that it has written as many bytes as words can tell.
-/
def overstating : Scripted WebSession :=
  .ofScript [⟨.outputFull, some 1, .copy, none⟩, ⟨.complete, some 1, .copy, some (2 ^ 64 - 1)⟩] 0
    (.identity 0xFF)

theorem overstating_reportsWords : (Scripted.codec webCodec).ReportsWords overstating :=
  Scripted.reportsWords (by decide)

def overstated : State (Scripted WebSession) :=
  ⟨[0x62], ⟨[0x61, 0, 0, 0, 0, 0], 1⟩, 0, 1, { overstating with pending := overstating.pending.tail }⟩

def overstatement : Conversion := ⟨1, 2 ^ 64 - 1, .complete, [0x62]⟩

theorem reaches_overstated :
    Reaches (Scripted.codec webCodec) overstating [0x61, 0x62] overstated :=
  .turn (.start (by rfl)) (by rfl)

/-- One byte and a report of the largest word: none is left. -/
theorem position_is_exact_unless_wrapped_overstated :
    (Scripted.codec webCodec).ReportsWords overstating ∧
      ([0x61, 0x62] : Bytes).length ≤ addressLimit ∧
      run? (Scripted.codec webCodec) 2 overstating [0x61, 0x62] =
        .ok (Transcode.run? (Scripted.codec webCodec) 2 overstating [0x61, 0x62]) ∧
      Reaches (Scripted.codec webCodec) overstating [0x61, 0x62] overstated ∧ overstatement.IsWord ∧
      ∃ trace next, heed overstated overstatement overstating = .ok (trace, next) ∧
        Moves overstated overstatement next ∧ next.block.written.toNat = 0 ∧
        ¬ overstated.block.produced <+: next.block.produced := by
  have words := overstating_reportsWords
  have addressable : ([0x61, 0x62] : Bytes).length ≤ addressLimit := by decide
  have word : overstatement.IsWord := by decide
  rcases position_is_exact_unless_wrapped words addressable with ⟨-, runs, states⟩
  have run : run? (Scripted.codec webCodec) 2 overstating [0x61, 0x62] =
      .ok (Transcode.run? (Scripted.codec webCodec) 2 overstating [0x61, 0x62]) :=
    (runs 2).resolve_right (by intro lacks; cases lacks)
  rcases (states _ reaches_overstated).2.2 overstatement word overstating with
    ⟨trace, next, heeded, moves, -⟩
  refine ⟨words, addressable, run, reaches_overstated, word, trace, next, heeded, moves, ?_, ?_⟩
  · rw [moves.written]
    rfl
  · rw [moves.keeps_iff]
    decide

/-- A run of that codec loses the byte that its first call has written: the position is not in all
states the clamped sum in numbers, and what has been produced does not stay so. -/
theorem position_is_not_always_exact :
    (∃ run, Transcode.run? (Scripted.codec webCodec) 2 overstating [0x61, 0x62] = some run ∧
      run.trace.calls.map Call.written = [1, 2 ^ 64 - 1] ∧ run.result = .ok ⟨[0]⟩) ∧
    ¬ ∀ s, Reaches (Scripted.codec webCodec) overstating [0x61, 0x62] s →
      ∀ report : Conversion, report.IsWord → ∀ after trace next,
        heed s report after = .ok (trace, next) →
          next.block.written.toNat =
              min s.block.memory.length (s.block.written.toNat + report.written) ∧
            s.block.produced <+: next.block.produced := by
  constructor
  · obtain ⟨run, stops⟩ : ∃ run,
      Transcode.run? (Scripted.codec webCodec) 2 overstating [0x61, 0x62] = some run := ⟨_, rfl⟩
    exact ⟨run, stops, by cases stops; decide, by cases stops; rfl⟩
  · intro always
    have heeded : ∃ trace, heed overstated overstatement overstating = .ok (trace,
        { overstated with
          remaining := [], block := ⟨[0x61, 0x62, 0, 0, 0, 0], 0⟩, codec := overstating }) := ⟨_, rfl⟩
    rcases heeded with ⟨trace, heeded⟩
    have position := (always _ reaches_overstated overstatement (by decide) _ _ _ heeded).1
    exact absurd position (by decide)

end Words

end LinkCharset
