import LinkCharset.Codec.Scripted
import LinkCharset.Codec.Web
import LinkCharset.Transcode
import Mathlib.Tactic

/-! # Output as a list that only grows

Seen from outside, a run is a sequence of moves: a call, what its slice then starts with, and at
most one byte copied behind that. The block that grows, and every byte that stands in it without
having been produced, do not show: the output is what the moves append, in their order. Nothing is
assumed of the codec but that it reads no more than it is given and writes no more than it has room
for. -/
namespace LinkCharset

/-- A conversion that reads no more than it is given and writes no more than it has room for. -/
def Call.IsBounded : Call → Prop
  | .convert given room report => report.read ≤ given.length ∧ report.written ≤ room
  | _ => True

instance : DecidablePred Call.IsBounded
  | .convert given room report =>
    inferInstanceAs (Decidable (report.read ≤ given.length ∧ report.written ≤ room))
  | .openSession .. | .reset | .close | .detect | .toAscii _ | .toUnicode _ => .isTrue trivial

def Call.FitsRoom : Call → Prop
  | .convert _ room report => report.written ≤ room
  | _ => True

theorem Call.IsBounded.fitsRoom {call : Call} (bounded : call.IsBounded) : call.FitsRoom := by
  cases call with
  | convert given room report => exact bounded.2
  | _ => trivial

def overlay (slice output : Bytes) : Bytes :=
  output.take slice.length ++ slice.drop output.length

@[simp] theorem length_overlay (slice output : Bytes) :
    (overlay slice output).length = slice.length := by
  simp [overlay]
  omega

theorem take_overlay {slice output : Bytes} (fits : output.length ≤ slice.length) :
    (overlay slice output).take output.length = output := by
  simp [overlay, List.take_of_length_le fits]

theorem Buffer.spare_fill (b : Buffer) (output : Bytes) :
    (b.fill output).spare = overlay b.spare output := by
  have behind : b.spare.drop output.length = b.leftover.drop output.length ++
      List.replicate (b.zeros - (output.length - b.leftover.length)) 0 := by
    simp [spare, List.drop_append]
  rw [overlay, behind, length_spare]
  rcases Nat.le_total output.length b.room with fits | exceeds
  · simp only [fill, spare, List.take_of_length_le fits, List.append_assoc]
  · have whole : (output.take b.room).length = b.room := by simpa using exceeds
    have noLeftover (n : Nat) (h : b.room ≤ n) : b.leftover.drop n = [] :=
      List.drop_eq_nil_of_le (by simp only [room] at h; omega)
    have noZeros (n : Nat) (h : b.room ≤ n) : b.zeros - (n - b.leftover.length) = 0 := by
      simp only [room] at h
      omega
    simp only [fill, spare, whole, noLeftover _ le_rfl, noLeftover _ exceeds, noZeros _ le_rfl,
      noZeros _ exceeds, List.append_nil, List.replicate_zero]

/-- One call of a run, as a list that only grows sees it. -/
structure Move where
  /-- The input that the call is given. -/
  given : Bytes
  /-- The slice that it is offered, with whatever stands in it. -/
  offered : Bytes
  report : Conversion

namespace Move

def call (m : Move) : Call := .convert m.given m.offered.length m.report

/-- The slice as the call leaves it. -/
def slice (m : Move) : Bytes := overlay m.offered m.report.output

def left (m : Move) : Bytes := m.given.drop m.report.read

def copied (m : Move) : Bytes :=
  match m.report.status with
  | .invalid | .incomplete => m.left.take 1
  | _ => []

def appended (m : Move) : Bytes := m.slice.take m.report.written ++ m.copied

def taken (m : Move) : Nat := m.report.read + m.copied.length

def rest (m : Move) : Bytes := m.given.drop m.taken

def failure? (m : Move) : Option Int :=
  match m.report.status with
  | .failed code => some code
  | _ => none

def isLast (m : Move) : Bool :=
  match m.report.status with
  | .complete | .failed _ => true
  | .outputFull => false
  | .invalid | .incomplete => m.rest.isEmpty

/-- What comes of a run that has produced something and makes these moves: nothing but a code if
a call fails, else the output with a zero byte behind it. -/
def outcome (produced : Bytes) (moves : List Move) : Except TranscodeError Transcoded :=
  match moves.findSome? failure? with
  | some code => .error (.codec code)
  | none => .ok ⟨produced ++ moves.flatMap appended ++ [0]⟩

theorem outcome_singleton {m : Move} (unfailed : m.failure? = none) (produced : Bytes) :
    outcome produced [m] = .ok ⟨produced ++ m.appended ++ [0]⟩ := by
  simp [outcome, unfailed]

/-- The moves behind one that does not fail start with its output. -/
theorem outcome_cons {m : Move} (unfailed : m.failure? = none) (produced : Bytes)
    (moves : List Move) : outcome produced (m :: moves) = outcome (produced ++ m.appended) moves := by
  simp [outcome, unfailed, List.append_assoc]

theorem outcome_eq_error_iff {produced : Bytes} {moves : List Move} {code : Int} :
    outcome produced moves = .error (.codec code) ↔ moves.findSome? failure? = some code := by
  rw [outcome]
  cases moves.findSome? failure? <;> simp

theorem eq_codec_of_outcome {produced : Bytes} {moves : List Move} {failure : TranscodeError}
    (fails : outcome produced moves = .error failure) : ∃ code, failure = .codec code := by
  rw [outcome] at fails
  split at fails
  · exact ⟨_, (Except.error.inj fails).symm⟩
  · cases fails

theorem bytes_of_outcome {produced : Bytes} {moves : List Move} {output : Transcoded}
    (succeeds : outcome produced moves = .ok output) :
    output.bytes = produced ++ moves.flatMap appended ∧ output.terminated = output.bytes ++ [0] := by
  rw [outcome] at succeeds
  split at succeeds
  · cases succeeds
  · obtain rfl := (Except.ok.inj succeeds).symm
    rw [Transcoded.bytes_mk]
    exact ⟨rfl, rfl⟩

theorem outcome_of_unfailed {moves : List Move} (unfailed : ∀ m ∈ moves, m.failure? = none)
    (produced : Bytes) : outcome produced moves = .ok ⟨produced ++ moves.flatMap appended ++ [0]⟩ := by
  simp [outcome, List.findSome?_eq_none_iff.mpr unfailed]

/-- A move that writes what it reads, and claims to be the end only where the input ends. -/
def IsFaithful (m : Move) : Prop :=
  m.slice.take m.report.written = m.given.take m.report.read ∧
    (m.report.status = .complete → m.left = [])

theorem copied_eq_take (m : Move) : m.copied = m.left.take m.copied.length := by
  rw [copied]
  split <;> cases m.left <;> rfl

def IsStopped (m : Move) : Prop := m.report.status = .invalid ∨ m.report.status = .incomplete

namespace IsStopped

variable {m : Move} (stopped : m.IsStopped)
include stopped

theorem copied_eq : m.copied = m.left.take 1 := by
  rcases stopped with h | h <;> simp [copied, h]

theorem failure?_eq : m.failure? = none := by
  rcases stopped with h | h <;> simp [failure?, h]

theorem isLast_eq : m.isLast = m.rest.isEmpty := by
  rcases stopped with h | h <;> simp [isLast, h]

theorem rest_eq : m.rest = m.left.drop 1 := by
  rw [rest, taken, stopped.copied_eq, left, ← List.drop_drop]
  cases m.given.drop m.report.read <;> rfl

end IsStopped

theorem taken_le {m : Move} (bounded : m.call.IsBounded) : m.taken ≤ m.given.length := by
  have copied : m.copied.length ≤ m.left.length := by
    rw [copied_eq_take, List.length_take]
    omega
  have read : m.report.read ≤ m.given.length := bounded.1
  simp only [left, List.length_drop] at copied
  simp only [taken]
  omega

theorem IsFaithful.appended_eq {m : Move} (faithful : m.IsFaithful) :
    m.appended = m.given.take m.taken := by
  rw [appended, faithful.1, taken, List.take_add, copied_eq_take, left]
  simp

theorem IsFaithful.rest_eq_nil {m : Move} (faithful : m.IsFaithful) (unfailed : m.failure? = none)
    (last : m.isLast = true) : m.rest = [] := by
  cases status : m.report.status with
  | complete =>
    have ended : m.given.length ≤ m.report.read := by simpa [left] using faithful.2 status
    exact List.drop_eq_nil_of_le (by simp only [taken]; omega)
  | outputFull => simp [isLast, status] at last
  | failed code => simp [failure?, status] at unfailed
  | invalid => simpa [isLast, status] using last
  | incomplete => simpa [isLast, status] using last

/-- A run goes on behind a byte that is copied, or for want of room. -/
theorem isStopped_of_goesOn {m : Move} (goesOn : m.isLast = false)
    (roomy : m.report.status ≠ .outputFull) : m.IsStopped := by
  cases status : m.report.status with
  | complete => simp [isLast, status] at goesOn
  | outputFull => exact absurd status roomy
  | failed code => simp [isLast, status] at goesOn
  | invalid => exact .inl status
  | incomplete => exact .inr status

theorem length_rest_lt {m : Move} (goesOn : m.isLast = false)
    (roomy : m.report.status ≠ .outputFull) : m.rest.length < m.given.length := by
  have stopped := isStopped_of_goesOn goesOn roomy
  rw [stopped.isLast_eq, List.isEmpty_eq_false_iff, stopped.rest_eq] at goesOn
  rw [stopped.rest_eq]
  have some := List.length_pos_of_ne_nil goesOn
  simp only [left, List.length_drop] at some ⊢
  omega

end Move

/-- The moves by which a codec converts what is left of an input, from a state of its own on. -/
def Codec.Makes {σ : Type} (c : Codec σ) (codec : σ) (left : Bytes) : List Move → Prop
  | [] => False
  | m :: moves =>
    m.given = left ∧ m.report = (c.convert codec left m.offered.length).1 ∧
      if m.isLast then moves = []
      else c.Makes (c.convert codec left m.offered.length).2 m.rest moves

namespace Codec

variable {σ : Type} {c : Codec σ} {codec : σ} {left : Bytes}

theorem Makes.given_eq {before after : List Move} {m : Move}
    (makes : c.Makes codec left (before ++ m :: after))
    (bounded : ∀ m ∈ before, m.call.IsBounded) :
    (before.map Move.taken).sum ≤ left.length ∧
      m.given = left.drop (before.map Move.taken).sum := by
  induction before generalizing codec left with
  | nil => simpa using makes.1
  | cons first before ih =>
    rcases makes with ⟨rfl, -, makes⟩
    split at makes
    · simp at makes
    · rcases ih makes fun m h => bounded m (List.mem_cons_of_mem _ h) with ⟨sum, given⟩
      have taken := Move.taken_le (bounded first List.mem_cons_self)
      simp only [Move.rest, List.length_drop, List.drop_drop] at sum given
      simp only [List.map_cons, List.sum_cons]
      exact ⟨by omega, given⟩

/-- Faithful moves without a failure put the input back together. -/
theorem Makes.flatMap_appended {moves : List Move} (makes : c.Makes codec left moves)
    (faithful : ∀ m ∈ moves, m.IsFaithful) (unfailed : ∀ m ∈ moves, m.failure? = none) :
    moves.flatMap Move.appended = left := by
  induction moves generalizing codec left with
  | nil => exact makes.elim
  | cons m moves ih =>
    rcases makes with ⟨rfl, -, makes⟩
    have appended := (faithful m List.mem_cons_self).appended_eq
    have later : moves.flatMap Move.appended = m.rest := by
      split at makes
      · rename_i last
        rw [(faithful m List.mem_cons_self).rest_eq_nil (unfailed m List.mem_cons_self) last]
        simp [makes]
      · exact ih makes (fun m h => faithful m (List.mem_cons_of_mem _ h))
          fun m h => unfailed m (List.mem_cons_of_mem _ h)
    rw [List.flatMap_cons, appended, later, Move.rest, List.take_append_drop]

end Codec

namespace Transcode

variable {σ : Type} {c : Codec σ} {total : Nat} {s : Cursor σ}

def moveAt (c : Codec σ) (s : Cursor σ) : Move :=
  ⟨s.remaining, s.buffer.spare, (c.convert s.codec s.remaining s.buffer.room).1⟩

@[simp] theorem length_offered_moveAt : (moveAt c s).offered.length = s.buffer.room := by
  simp [moveAt]

def Turn.trace : Turn σ → Trace
  | .done trace _ _ => trace
  | .more trace _ => trace

@[simp] theorem Turn.trace_after (before : Trace) (t : Turn σ) :
    (t.after before).trace = before ++ t.trace := by
  cases t <;> rfl

theorem calls_notice : (notice total s).calls = [] := by
  rw [notice]
  split <;> rfl

@[simp] theorem copiedBytes_notice : (notice total s).copiedBytes = [] := by
  rw [notice]
  split <;> rfl

theorem calls_copy (b : Buffer) (byte : UInt8) (rest : Bytes) : (copy b byte rest).1.calls = [] := by
  rw [copy]
  split <;> rfl

@[simp] theorem copiedBytes_copy (b : Buffer) (byte : UInt8) (rest : Bytes) :
    (copy b byte rest).1.copiedBytes = [byte] := by
  rw [copy]
  split <;> rfl

theorem calls_react (status : Status) : (react total status s).trace.calls = [] := by
  have skipped : (skip total s).trace.calls = [] := by
    rw [skip]
    cases s.remaining with
    | nil => rfl
    | cons byte rest =>
      by_cases nothing : rest = [] <;> simp [nothing, Turn.trace, calls_notice, calls_copy]
  cases status with
  | complete => rfl
  | outputFull => rfl
  | failed code => rfl
  | invalid => exact skipped
  | incomplete => exact skipped

theorem calls_turn (c : Codec σ) (total : Nat) (s : Cursor σ) :
    (turn c total s).trace.calls = [(moveAt c s).call] := by
  simp [turn, call, calls_react, moveAt, Move.call]

theorem produced_copy (b : Buffer) (byte : UInt8) (rest : Bytes) :
    (copy b byte rest).2.produced = b.produced ++ [byte] := by
  rw [copy]
  split
  · simp [grow, Buffer.produced_put]
  · exact Buffer.produced_put b byte

theorem room_call (fits : (moveAt c s).report.written ≤ s.buffer.room) :
    (call c s).2.2.buffer.room = s.buffer.room - (moveAt c s).report.written := by
  have h := Buffer.room_advance (b := s.buffer.fill (moveAt c s).report.output) (by simpa using fits)
  rw [Buffer.room_fill] at h
  exact h

theorem produced_call (fits : (moveAt c s).report.written ≤ s.buffer.room) :
    (call c s).2.2.buffer.produced =
      s.buffer.produced ++ (moveAt c s).slice.take (moveAt c s).report.written := by
  have room : (moveAt c s).report.written ≤ (s.buffer.fill (moveAt c s).report.output).room := by
    simpa using fits
  have h := Buffer.produced_advance room
  rw [Buffer.produced_fill, Buffer.spare_fill] at h
  exact h

/-- What a turn that makes a move does and leads to, where something has been produced before. -/
def Turn.Carries (m : Move) (codec : σ) (produced : Bytes) : Turn σ → Prop
  | .done trace result _ =>
    m.isLast = true ∧ trace.copiedBytes = m.copied ∧ result = Move.outcome produced [m]
  | .more trace next =>
    m.isLast = false ∧ m.failure? = none ∧ trace.copiedBytes = m.copied ∧ next.codec = codec ∧
      next.remaining = m.rest ∧ next.buffer.produced = produced ++ m.appended ∧
      (m.report.status = .outputFull → next.buffer.room =
        m.offered.length - m.report.written + 2 * max m.left.length 1)

/-- Both reports that make a run skip a byte come to the same move. -/
theorem skip_carries {m : Move} {behind : Cursor σ} {produced : Bytes} (stopped : m.IsStopped)
    (left : behind.remaining = m.left)
    (written : behind.buffer.produced = produced ++ m.slice.take m.report.written) :
    (skip total behind).Carries m behind.codec produced := by
  have copied := stopped.copied_eq
  have unfailed := stopped.failure?_eq
  have last := stopped.isLast_eq
  have rest := stopped.rest_eq
  rw [skip]
  cases here : m.left with
  | nil =>
    rw [here] at left copied rest
    simp [left, Turn.Carries, last, rest, Move.outcome_singleton unfailed, Move.appended, copied,
      Buffer.finish, written]
  | cons byte others =>
    rw [here] at left copied rest
    have only : m.copied = [byte] := copied
    have appended : (copy behind.buffer byte others).2.produced = produced ++ m.appended := by
      simp [produced_copy, written, Move.appended, only]
    have ending : m.isLast = others.isEmpty := by simp [last, rest]
    simp only [left]
    by_cases nothing : others = []
    · simp [nothing] at ending appended ⊢
      simp [Turn.Carries, ending, only, Move.outcome_singleton unfailed, Buffer.finish, appended]
    · have stays : m.report.status ≠ .outputFull := by rcases stopped with h | h <;> simp [h]
      simp [nothing, Turn.Carries, ending, only, unfailed, rest, appended, stays]

/-- Every turn carries out the move that the codec makes at its cursor. -/
theorem turn_carries (total : Nat) (fits : (moveAt c s).report.written ≤ s.buffer.room) :
    (turn c total s).Carries (moveAt c s) (c.convert s.codec s.remaining s.buffer.room).2
      s.buffer.produced := by
  have written := produced_call fits
  have left : (call c s).2.2.remaining = (moveAt c s).left := rfl
  have room : (call c s).2.2.buffer.room =
      (moveAt c s).offered.length - (moveAt c s).report.written := by
    rw [length_offered_moveAt]
    exact room_call fits
  have after {t : Turn σ} {m : Move} {codec : σ} {produced : Bytes} {before : Trace}
      (nothing : before.copiedBytes = []) (h : t.Carries m codec produced) :
      (t.after before).Carries m codec produced := by
    cases t <;> simpa [Turn.after, Turn.Carries, nothing] using h
  apply after rfl
  change (react total (moveAt c s).report.status (call c s).2.2).Carries (moveAt c s)
    (call c s).2.2.codec s.buffer.produced
  generalize (call c s).2.2 = behind at written left room ⊢
  generalize moveAt c s = m at written left room ⊢
  cases status : m.report.status with
  | complete =>
    simp [react, Turn.Carries, Move.isLast, Move.outcome, Move.failure?, Move.appended,
      Move.copied, status, Buffer.finish, written]
  | outputFull =>
    simp [react, grow, Turn.Carries, Move.isLast, Move.failure?, Move.rest, Move.taken,
      Move.appended, Move.copied, status, left, Move.left, written, room, Buffer.room_grow]
  | failed code =>
    simp [react, Turn.Carries, Move.isLast, Move.copied, Move.outcome, Move.failure?, status]
  | invalid => exact skip_carries (.inl status) left written
  | incomplete => exact skip_carries (.inr status) left written

/-- A run makes the codec's moves and comes to what they amount to. -/
theorem runFrom_makes {limit : Nat} {run : Run σ} (stops : runFrom c total limit s = some run)
    (roomy : ∀ call ∈ run.trace.calls, call.FitsRoom) :
    ∃ moves : List Move, run.trace.calls = moves.map Move.call ∧
      run.trace.copiedBytes = moves.flatMap Move.copied ∧
      c.Makes s.codec s.remaining moves ∧ run.result = Move.outcome s.buffer.produced moves := by
  induction limit generalizing s run with
  | zero => simp [runFrom] at stops
  | succ limit ih =>
    have calls := calls_turn c total s
    have carries (h : (moveAt c s).call.FitsRoom) := turn_carries total
      (by simpa [moveAt, Move.call, Call.FitsRoom] using h)
    simp only [runFrom] at stops
    cases turned : turn c total s with
    | done trace result codec =>
      simp only [turned, Turn.trace, Option.some.injEq] at stops calls carries
      subst stops
      rcases carries (roomy _ (by simp [calls])) with ⟨last, copied, rfl⟩
      exact ⟨[moveAt c s], by simp [calls], by simp [copied],
        ⟨rfl, by rw [length_offered_moveAt]; rfl, by simp [last]⟩, rfl⟩
    | more trace next =>
      simp only [turned, Turn.trace, Option.map_eq_some_iff] at stops calls carries
      rcases stops with ⟨later, stops, rfl⟩
      simp only [Trace.calls_append, calls, List.mem_append, List.mem_singleton] at roomy
      obtain ⟨goesOn, unfailed, copied, codec, remaining, produced, -⟩ :=
        carries (roomy _ (.inl rfl))
      obtain ⟨moves, laterCalls, laterCopied, makes, result⟩ :=
        ih stops fun call h => roomy call (.inr h)
      rw [codec, remaining] at makes
      rw [produced] at result
      refine ⟨moveAt c s :: moves, by simp [calls, laterCalls], by simp [copied, laterCopied],
        ⟨rfl, by rw [length_offered_moveAt]; rfl, ?_⟩, ?_⟩
      · rw [if_neg (by simp [goesOn]), length_offered_moveAt]
        exact makes
      · rw [Move.outcome_cons unfailed, ← result]

theorem run?_makes {limit : Nat} {codec : σ} {input : Bytes} {run : Run σ}
    (stops : run? c limit codec input = some run)
    (roomy : ∀ call ∈ run.trace.calls, call.FitsRoom) :
    ∃ moves : List Move, run.trace.calls = moves.map Move.call ∧
      run.trace.copiedBytes = moves.flatMap Move.copied ∧
      (if input = [] then moves = [] else c.Makes codec input moves) ∧
      run.result = Move.outcome [] moves := by
  by_cases nothing : input = []
  · subst nothing
    simp only [run?, List.isEmpty_nil, if_true, Option.some.injEq] at stops
    subst stops
    exact ⟨[], rfl, rfl, by simp, rfl⟩
  · simp only [run?, List.isEmpty_iff, nothing, if_false] at stops
    simp only [if_neg nothing]
    exact runFrom_makes stops roomy

/-- The growable buffer refines a list that only grows, for any codec that keeps to its input and
its room: the calls are given what is left of the input, the output is what they leave at the start
of their slices and what is copied between them, one zero byte ends it, and a run fails exactly if a
call does, with the first code. Codecs that write what they read give back the input. -/
theorem run_refines_growing_list {limit : Nat} {codec : σ} {input : Bytes} {run : Run σ}
    (stops : run? c limit codec input = some run)
    (bounded : ∀ call ∈ run.trace.calls, call.IsBounded) :
    ∃ moves : List Move,
      run.trace.calls = moves.map Move.call ∧
      (if input = [] then moves = [] else c.Makes codec input moves) ∧
      (∀ before m after, moves = before ++ m :: after →
        (before.map Move.taken).sum ≤ input.length ∧
          m.given = input.drop (before.map Move.taken).sum) ∧
      (∀ output, run.result = .ok output →
        output.bytes = moves.flatMap Move.appended ∧ output.terminated = output.bytes ++ [0]) ∧
      (∀ code, run.result = .error (.codec code) ↔ moves.findSome? Move.failure? = some code) ∧
      (∀ failure, run.result = .error failure → ∃ code, failure = .codec code) ∧
      ((∀ m ∈ moves, m.IsFaithful) → (∀ m ∈ moves, m.failure? = none) →
        run.result = .ok ⟨input ++ [0]⟩) := by
  rcases run?_makes stops fun call made => (bounded call made).fitsRoom with
    ⟨moves, calls, -, makes, result⟩
  refine ⟨moves, calls, makes, ?_, ?_, ?_, ?_, ?_⟩
  · rintro before m after rfl
    have inside (x : Move) (h : x ∈ before ++ m :: after) : x.call.IsBounded :=
      bounded _ (calls ▸ List.mem_map_of_mem h)
    by_cases nothing : input = []
    · simp [nothing] at makes
    · rw [if_neg nothing] at makes
      exact makes.given_eq fun x h => inside x (List.mem_append_left _ h)
  · intro output succeeds
    exact Move.bytes_of_outcome (result ▸ succeeds)
  · intro code
    rw [result, Move.outcome_eq_error_iff]
  · intro failure fails
    exact Move.eq_codec_of_outcome (result ▸ fails)
  · intro faithful unfailed
    rw [result, Move.outcome_of_unfailed unfailed]
    by_cases nothing : input = []
    · rw [if_pos nothing] at makes
      simp [makes, nothing]
    · rw [if_neg nothing] at makes
      rw [makes.flatMap_appended faithful unfailed, List.nil_append]

/-- A codec that reads one byte, then fills its whole room and cannot read the next byte, then asks
for room it does not need, and at last copies bytes up to one that it calls invalid. -/
theorem run_refines_growing_list_erratic :
    ∃ (run : Run (Scripted WebSession)) (moves : List Move),
      run? (Scripted.codec webCodec) 9
        (.ofScript [⟨.outputFull, some 1, .copy, none⟩, ⟨.invalid, some 0, .fill, none⟩,
          ⟨.outputFull, some 0, .bytes [], none⟩] 0 (.identity 0xFF))
        [0x61, 0x62, 0xFF, 0x63] = some run ∧
      (∀ call ∈ run.trace.calls, call.IsBounded) ∧
      run.trace.calls = moves.map Move.call ∧
      (∀ output, run.result = .ok output → output.bytes = moves.flatMap Move.appended) ∧
      run.result = .ok ⟨0x61 :: List.replicate 13 0x2D ++ [0x62, 0xFF, 0x63, 0]⟩ := by
  obtain ⟨run, stops⟩ : ∃ run, run? (Scripted.codec webCodec) 9
      (.ofScript [⟨.outputFull, some 1, .copy, none⟩, ⟨.invalid, some 0, .fill, none⟩,
        ⟨.outputFull, some 0, .bytes [], none⟩] 0 (.identity 0xFF))
      [0x61, 0x62, 0xFF, 0x63] = some run := ⟨_, rfl⟩
  have bounded : ∀ call ∈ run.trace.calls, call.IsBounded := by
    cases stops
    decide
  have result : run.result = .ok ⟨0x61 :: List.replicate 13 0x2D ++ [0x62, 0xFF, 0x63, 0]⟩ := by
    cases stops
    rfl
  rcases run_refines_growing_list stops bounded with ⟨moves, calls, -, -, succeeds, -⟩
  exact ⟨run, moves, stops, bounded, calls, fun output h => (succeeds output h).1, result⟩

end Transcode

end LinkCharset
