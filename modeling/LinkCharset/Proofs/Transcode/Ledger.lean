import LinkCharset.Proofs.Transcode.Figures

/-! # The ledger of a run

What a run has done so far settles how much of its input is spent, how much output there is and how
large the block is. A run carries these figures along, and its events are entries that agree with
them: the log of a run says nothing but what its calls and the bytes copied between them come to. -/
namespace LinkCharset

@[simp] theorem Buffer.written_put (b : Buffer) (byte : UInt8) :
    (b.put byte).written = b.written + 1 := by
  rw [← Buffer.length_produced, Buffer.produced_put, List.length_append, Buffer.length_produced,
    List.length_singleton]

theorem Buffer.capacity_put {b : Buffer} (roomy : 0 < b.room) (byte : UInt8) :
    (b.put byte).capacity = b.capacity := by
  rw [Buffer.capacity, Buffer.capacity, Buffer.written_put, Buffer.room_put]
  omega

namespace Transcode

variable {σ : Type} {c : Codec σ}

section Calling

variable (c : Codec σ) (s : Cursor σ)

theorem calling_eq :
    ∃ output, (call c s).2.1 = [.call (moveAt c s).call] ++ [.converted output] := by
  simp only [call, Move.call, length_offered_moveAt]
  exact ⟨_, rfl⟩

@[simp] theorem calls_calling : Trace.calls (call c s).2.1 = [(moveAt c s).call] := by
  rcases calling_eq c s with ⟨output, calling⟩
  simp [calling]

@[simp] theorem events_calling : Trace.events (call c s).2.1 = [] := by
  rcases calling_eq c s with ⟨output, calling⟩
  simp [calling]

@[simp] theorem copiedBytes_calling : Trace.copiedBytes (call c s).2.1 = [] := by
  rcases calling_eq c s with ⟨output, calling⟩
  simp [calling]

theorem consumed_calling : Trace.consumed (call c s).2.1 = (moveAt c s).report.read := by
  simp [Trace.consumed, Call.read, Move.call]

theorem produced_calling : Trace.produced (call c s).2.1 = (moveAt c s).report.written := by
  simp [Trace.produced, Call.written, Move.call]

theorem growths_calling : Trace.growths (call c s).2.1 = [] := by
  simp [Trace.growths]

end Calling

theorem written_call {s : Cursor σ} (fits : (moveAt c s).report.written ≤ s.buffer.room) :
    (call c s).2.2.buffer.written = s.buffer.written + (moveAt c s).report.written := by
  rw [← Buffer.length_produced, produced_call fits, List.length_append, List.length_take,
    Buffer.length_produced, Move.slice, length_overlay, length_offered_moveAt, Nat.min_eq_left fits]

theorem capacity_call {s : Cursor σ} (fits : (moveAt c s).report.written ≤ s.buffer.room) :
    (call c s).2.2.buffer.capacity = s.buffer.capacity := by
  rw [Buffer.capacity, Buffer.capacity, written_call fits, room_call fits]
  omega

/-- What a turn can do, once its call has been made: end the run well or badly, make room, or copy
the byte at which the call has stopped, which may be the last one or not be there at all. -/
inductive Reacts (total : ℕ) (status : Status) (calling : Trace) (s : Cursor σ) : Turn σ → Prop where
  | completes (complete : status = .complete) :
    Reacts total status calling s
      (.done
        (calling ++ [.event (.transcoded total s.buffer.written s.invalid s.tooShort)])
        (.ok s.buffer.finish) s.codec)
  | fails {code : Int} (failed : status = .failed code) :
    Reacts total status calling s
      (.done (calling ++ [.event (.codecFailed code)]) (.error (.codec code)) s.codec)
  | grows (full : status = .outputFull) :
    Reacts total status calling s
      (.more (calling ++ [.event (grow s.buffer s.remaining.length).1])
        { s with buffer := s.buffer.grow s.remaining.length, tooShort := s.tooShort + 1 })
  | ends (stopped : status = .invalid ∨ status = .incomplete) (nothing : s.remaining = []) :
    Reacts total status calling s (.done calling (.ok s.buffer.finish) s.codec)
  | copiesLast (stopped : status = .invalid ∨ status = .incomplete) {byte : UInt8}
      (last : s.remaining = [byte]) :
    Reacts total status calling s
      (.done (calling ++ (notice total s ++ (copy s.buffer byte []).1))
        (.ok (copy s.buffer byte []).2.finish) s.codec)
  | copies (stopped : status = .invalid ∨ status = .incomplete) {byte : UInt8} {rest : Bytes}
      (front : s.remaining = byte :: rest) (more : rest ≠ []) :
    Reacts total status calling s
      (.more (calling ++ (notice total s ++ (copy s.buffer byte rest).1))
        { s with
          remaining := rest
          buffer := (copy s.buffer byte rest).2
          invalid := s.invalid + 1 })

theorem reacts_of_stopped {total : ℕ} {status : Status} (calling : Trace) (s : Cursor σ)
    (stopped : status = .invalid ∨ status = .incomplete) :
    Reacts total status calling s ((skip total s).after calling) := by
  rw [skip]
  cases front : s.remaining with
  | nil =>
    rw [Turn.after, List.append_nil]
    exact .ends stopped front
  | cons byte rest =>
    cases rest with
    | nil => exact .copiesLast stopped front
    | cons next rest => exact .copies stopped front (List.cons_ne_nil _ _)

theorem turn_reacts (c : Codec σ) (total : ℕ) (s : Cursor σ) :
    Reacts total (moveAt c s).report.status (call c s).2.1 (call c s).2.2 (turn c total s) := by
  change Reacts _ _ _ _ ((react total (moveAt c s).report.status (call c s).2.2).after _)
  generalize (moveAt c s).report.status = status
  cases status with
  | complete => exact .completes rfl
  | outputFull => exact .grows rfl
  | failed code => exact .fails rfl
  | invalid => exact reacts_of_stopped _ _ (.inl rfl)
  | incomplete => exact reacts_of_stopped _ _ (.inr rfl)

variable {input : Bytes} {t : Trace} {s : Cursor σ}

structure Keeps (input : Bytes) (t : Trace) (s : Cursor σ) : Prop where
  balanced : t.IsBalanced input
  consumed : t.consumed ≤ input.length
  remaining : s.remaining = input.drop t.consumed
  written : s.buffer.written = t.produced
  capacity : s.buffer.capacity = t.capacity (2 * input.length)
  invalid : s.invalid = t.copiedBytes.length

namespace Keeps

theorem length_remaining (keeps : Keeps input t s) :
    s.remaining.length = input.length - t.consumed := by
  rw [keeps.remaining, List.length_drop]

theorem call (keeps : Keeps input t s) (bounded : (moveAt c s).call.IsBounded) :
    Keeps input (t ++ (call c s).2.1) (Transcode.call c s).2.2 := by
  have read : (moveAt c s).report.read ≤ s.remaining.length := bounded.1
  have fits : (moveAt c s).report.written ≤ s.buffer.room := by
    simpa [Move.call, Call.IsBounded] using bounded.2
  have left := keeps.length_remaining
  have consumed : (t ++ (Transcode.call c s).2.1).consumed =
      t.consumed + (moveAt c s).report.read := by
    rw [Trace.consumed_append, consumed_calling]
  refine ⟨?_, ?_, ?_, ?_, ?_, ?_⟩
  · rcases calling_eq c s with ⟨output, calling⟩
    rw [calling, ← List.append_assoc]
    exact (keeps.balanced.concat (.call _) trivial).concat (.converted _) trivial
  · have before := keeps.consumed
    omega
  · change s.remaining.drop (moveAt c s).report.read = _
    rw [keeps.remaining, List.drop_drop, consumed]
  · rw [written_call fits, keeps.written, Trace.produced_append, produced_calling]
  · rw [Trace.capacity_append t (growths_calling c s), ← keeps.capacity, capacity_call fits]
  · change s.invalid = _
    rw [keeps.invalid, Trace.copiedBytes_append, copiedBytes_calling, List.append_nil]

theorem grow (keeps : Keeps input t s) (tooShort : ℕ) :
    Keeps input (t ++ [.event (Transcode.grow s.buffer s.remaining.length).1])
      { s with buffer := s.buffer.grow s.remaining.length, tooShort } := by
  refine ⟨?_, ?_, ?_, ?_, ?_, ?_⟩
  · refine keeps.balanced.concat _ ⟨keeps.written, keeps.capacity, Nat.le_add_right _ _, keeps.consumed, ?_⟩
    rw [Buffer.grownCapacity, keeps.length_remaining]
  · simpa using keeps.consumed
  · simpa using keeps.remaining
  · rw [Trace.produced_append]
    exact keeps.written
  · rw [Buffer.capacity_grow]
    simp [Trace.capacity, Trace.growths, Transcode.grow, Event.growth?]
  · simpa using keeps.invalid

theorem put (keeps : Keeps input t s) {byte : UInt8} {rest : Bytes}
    (front : s.remaining = byte :: rest) (roomy : 0 < s.buffer.room)
    (announced : t.copiedBytes = [] → t.offsets = [t.consumed]) :
    Keeps input (t ++ [.copied byte])
      { s with remaining := rest, buffer := s.buffer.put byte, invalid := s.invalid + 1 } := by
  have consumed : (t ++ [Note.copied byte]).consumed = t.consumed + 1 := by
    rw [Trace.consumed_append]
    rfl
  have here : input.drop t.consumed = byte :: rest := keeps.remaining ▸ front
  have left := congrArg List.length here
  rw [List.length_drop, List.length_cons] at left
  refine ⟨keeps.balanced.concat _ ⟨?_, announced⟩, ?_, ?_, ?_, ?_, ?_⟩
  · rw [← List.head?_drop, here, List.head?_cons]
  · omega
  · rw [consumed, ← List.drop_drop, here, List.drop_one, List.tail_cons]
  · rw [Buffer.written_put, keeps.written, Trace.produced_append]
    rfl
  · rw [Trace.capacity_append t rfl, ← keeps.capacity, Buffer.capacity_put roomy]
  · rw [keeps.invalid]
    simp

theorem notice (keeps : Keeps input t s) (settled : t.offsets.length = min 1 t.copiedBytes.length)
    {u : Trace} (noticed : u = t ++ Transcode.notice input.length s) :
    Keeps input u s ∧ u.offsets.length = 1 ∧ u.copiedBytes = t.copiedBytes ∧
      (u.copiedBytes = [] → u.offsets = [u.consumed]) := by
  rw [Transcode.notice] at noticed
  by_cases first : s.invalid = 0
  · have none : t.copiedBytes = [] := by
      rw [← List.length_eq_zero_iff, ← keeps.invalid, first]
    have here : input.length - s.remaining.length = t.consumed := by
      have inside := keeps.consumed
      rw [keeps.length_remaining]
      omega
    have unannounced : t.offsets = [] := by simpa [none] using settled
    rw [if_pos first, here] at noticed
    subst noticed
    refine ⟨⟨keeps.balanced.concat (.event _) trivial, ?_, ?_, ?_, ?_, ?_⟩, ?_, ?_, ?_⟩
    · simpa using keeps.consumed
    · simpa using keeps.remaining
    · simpa using keeps.written
    · rw [Trace.capacity_append t rfl, keeps.capacity]
    · simpa using keeps.invalid
    · simp [unannounced, Event.offset?]
    · simp
    · simp [unannounced, Event.offset?]
  · rw [if_neg first, List.append_nil] at noticed
    subst noticed
    rw [keeps.invalid, List.length_eq_zero_iff] at first
    have some := List.length_pos_of_ne_nil first
    exact ⟨keeps, by omega, rfl, fun none => absurd none first⟩

theorem copy (keeps : Keeps input t s) {byte : UInt8} {rest : Bytes}
    (front : s.remaining = byte :: rest)
    (announced : t.copiedBytes = [] → t.offsets = [t.consumed]) :
    Keeps input (t ++ (Transcode.copy s.buffer byte rest).1)
      { s with
        remaining := rest
        buffer := (Transcode.copy s.buffer byte rest).2
        invalid := s.invalid + 1 } := by
  rw [Transcode.copy]
  by_cases full : s.buffer.isFull = true
  · have left : rest.length + 1 = s.remaining.length := by rw [front, List.length_cons]
    rw [if_pos full, left]
    change Keeps input (t ++ ([.event (Transcode.grow s.buffer s.remaining.length).1] ++ [.copied byte])) _
    rw [← List.append_assoc]
    refine (keeps.grow s.tooShort).put front ?_ fun none => ?_
    · rw [Buffer.room_grow]
      omega
    · simpa [Transcode.grow, Event.offset?] using announced (by simpa using none)
  · rw [if_neg full]
    refine keeps.put front ?_ announced
    simpa [Buffer.isFull, Nat.pos_iff_ne_zero] using full

end Keeps

/-- What holds before each turn of a run: each byte copied has been accounted for, and nothing has
been said yet of how the run ends. -/
structure Balances (input : Bytes) (t : Trace) (s : Cursor σ) : Prop extends Keeps input t s where
  offsets : t.offsets.length = min 1 t.copiedBytes.length
  tooShort : s.tooShort = t.timesFull
  totals : t.totals = []
  alarms : t.alarms = []
  unfailed : t.calls.findSome? Call.failure? = none

structure HasCalled (input : Bytes) (m : Move) (t : Trace) (s : Cursor σ) : Prop
    extends Keeps input t s where
  offsets : t.offsets.length = min 1 t.copiedBytes.length
  tooShort : s.tooShort + (if m.report.status = .outputFull then 1 else 0) = t.timesFull
  totals : t.totals = []
  alarms : t.alarms = []
  failure : t.calls.findSome? Call.failure? = m.failure?
  last : t.calls.getLast? = some m.call
  spent : m.report.read = m.given.length → t.consumed = input.length

structure Closes (input : Bytes) (t : Trace) : Prop where
  balanced : t.IsBalanced input
  offsets : t.offsets.length = min 1 t.copiedBytes.length
  totals : t.totals = if t.calls.getLast?.bind Call.status? = some .complete then
    [.transcoded input.length t.produced t.copiedBytes.length t.timesFull] else []
  alarms : t.alarms = ((t.calls.findSome? Call.failure?).map Event.codecFailed).toList
  spent : ∀ given room report, t.calls.getLast? = some (.convert given room report) →
    report.status = .complete → report.read = given.length → t.consumed = input.length

theorem failure?_call (m : Move) : m.call.failure? = m.failure? := by
  rw [Call.failure?, Move.failure?, Move.call, Call.status?]
  cases m.report.status <;> rfl

theorem Balances.call (books : Balances input t s) (bounded : (moveAt c s).call.IsBounded) :
    HasCalled input (moveAt c s) (t ++ (call c s).2.1) (call c s).2.2 := by
  refine ⟨books.toKeeps.call bounded, ?_, ?_, ?_, ?_, ?_, ?_, ?_⟩
  · simpa [Trace.offsets] using books.offsets
  · change s.tooShort + _ = _
    rw [books.tooShort, Trace.timesFull_append]
    simp [Trace.timesFull, Move.call, Call.status?, List.countP_cons]
  · simpa [Trace.totals] using books.totals
  · simpa [Trace.alarms] using books.alarms
  · simp [List.findSome?_append, books.unfailed, failure?_call]
  · simp
  · intro whole
    have inside := books.consumed
    have left := books.length_remaining
    change _ = s.remaining.length at whole
    rw [Trace.consumed_append, consumed_calling]
    omega

structure IsQuiet (u : Trace) : Prop where
  calls : u.calls = []
  totals : u.totals = []
  alarms : u.alarms = []

theorem IsQuiet.append {u v : Trace} (first : IsQuiet u) (second : IsQuiet v) : IsQuiet (u ++ v) where
  calls := by rw [Trace.calls_append, first.calls, second.calls, List.append_nil]
  totals := by rw [Trace.totals_append, first.totals, second.totals, List.append_nil]
  alarms := by rw [Trace.alarms_append, first.alarms, second.alarms, List.append_nil]

theorem isQuiet_notice (total : ℕ) (s : Cursor σ) : IsQuiet (Transcode.notice total s) := by
  refine ⟨calls_notice, ?_, ?_⟩ <;> rw [Transcode.notice] <;> split <;> rfl

theorem isQuiet_copy (b : Buffer) (byte : UInt8) (rest : Bytes) :
    IsQuiet (Transcode.copy b byte rest).1 := by
  refine ⟨calls_copy b byte rest, ?_, ?_⟩ <;> rw [Transcode.copy] <;> split <;> rfl

@[simp] theorem offsets_copy (b : Buffer) (byte : UInt8) (rest : Bytes) :
    (Transcode.copy b byte rest).1.offsets = [] := by
  rw [Transcode.copy]
  split <;> rfl

/-- What a turn adds to what has been done settles a run that ends with it, or keeps the balance. -/
def Turn.Settles (input : Bytes) (t : Trace) : Turn σ → Prop
  | .done trace _ _ => Closes input (t ++ trace)
  | .more trace next => Balances input (t ++ trace) next

namespace HasCalled

variable {m : Move} (called : HasCalled input m t s)
include called

/-- A call after which nothing more is done but quietly ends a run if it is neither complete nor
failed. -/
theorem closes {u : Trace} (quiet : IsQuiet u) (stopped : m.IsStopped)
    (balanced : (t ++ u).IsBalanced input)
    (offsets : (t ++ u).offsets.length = min 1 (t ++ u).copiedBytes.length) :
    Closes input (t ++ u) := by
  have calls : (t ++ u).calls = t.calls := by rw [Trace.calls_append, quiet.calls, List.append_nil]
  have incomplete : m.report.status ≠ .complete := by rcases stopped with h | h <;> simp [h]
  have unfailed := stopped.failure?_eq
  refine ⟨balanced, offsets, ?_, ?_, ?_⟩
  · rw [Trace.totals_append, called.totals, quiet.totals, calls, called.last]
    simp [Move.call, Call.status?, incomplete]
  · rw [Trace.alarms_append, called.alarms, quiet.alarms, calls, called.failure, unfailed]
    rfl
  · intro given room report last complete
    rw [calls, called.last] at last
    cases last
    exact absurd complete incomplete

/-- A call after which one event is logged ends a run, if the event is the one that is due. -/
theorem closes_event {e : Event} (agrees : Note.Agrees input t (.event e)) (silent : e.offset? = none)
    (total : (if e.isTotal then [e] else []) = if m.report.status = .complete then
      [.transcoded input.length s.buffer.written s.invalid t.timesFull] else [])
    (alarm : (if e.shownAt .info then [e] else []) = (m.failure?.map Event.codecFailed).toList) :
    Closes input (t ++ [.event e]) := by
  refine ⟨called.balanced.concat (.event e) agrees, ?_, ?_, ?_, ?_⟩
  · simpa [silent] using called.offsets
  · rw [Trace.totals_append, called.totals, Trace.totals_event, List.nil_append, total,
      called.written, called.invalid]
    simp [called.last, Move.call, Call.status?]
    rfl
  · simp [called.alarms, alarm, called.failure]
  · intro given room report last _ whole
    rw [Trace.calls_append, Trace.calls_cons_event, Trace.calls_nil, List.append_nil,
      called.last] at last
    cases last
    simpa using called.spent whole

/-- A call after which a run goes on keeps the balance, as far as the rest of the turn keeps the
figures. -/
theorem balances {u : Trace} {next : Cursor σ} (quiet : IsQuiet u) (unfailed : m.failure? = none)
    (keeps : Keeps input (t ++ u) next)
    (offsets : (t ++ u).offsets.length = min 1 (t ++ u).copiedBytes.length)
    (tooShort : next.tooShort = s.tooShort + if m.report.status = .outputFull then 1 else 0) :
    Balances input (t ++ u) next := by
  have calls : (t ++ u).calls = t.calls := by rw [Trace.calls_append, quiet.calls, List.append_nil]
  refine ⟨keeps, offsets, ?_, ?_, ?_, ?_⟩
  · rw [tooShort, called.tooShort, Trace.timesFull, Trace.timesFull, calls]
  · rw [Trace.totals_append, called.totals, quiet.totals, List.append_nil]
  · rw [Trace.alarms_append, called.alarms, quiet.alarms, List.append_nil]
  · rw [calls, called.failure, unfailed]

/-- A byte is copied where the call has stopped, with an event if it is the first one. -/
theorem skips {byte : UInt8} {rest : Bytes} (front : s.remaining = byte :: rest) :
    let u := notice input.length s ++ (copy s.buffer byte rest).1
    IsQuiet u ∧
      Keeps input (t ++ u)
        { s with
          remaining := rest
          buffer := (copy s.buffer byte rest).2
          invalid := s.invalid + 1 } ∧
      (t ++ u).offsets.length = min 1 (t ++ u).copiedBytes.length := by
  intro u
  rcases called.toKeeps.notice called.offsets rfl with ⟨keeps, one, -, announced⟩
  refine ⟨(isQuiet_notice _ s).append (isQuiet_copy s.buffer byte rest), ?_, ?_⟩
  · rw [← List.append_assoc]
    exact keeps.copy front announced
  · rw [← List.append_assoc, Trace.offsets_append, offsets_copy, List.append_nil, one]
    simp

end HasCalled

theorem Balances.turn (books : Balances input t s) (bounded : (moveAt c s).call.IsBounded) :
    (turn c input.length s).Settles input t := by
  have called := books.call bounded
  have reacts := turn_reacts c input.length s
  generalize (Transcode.call c s).2.1 = calling at called reacts
  generalize (Transcode.call c s).2.2 = behind at called reacts
  generalize moveAt c s = m at called reacts
  generalize Transcode.turn c input.length s = turned at reacts ⊢
  cases reacts with
  | completes complete =>
    have full := called.tooShort
    rw [complete, if_neg (by decide), Nat.add_zero] at full
    rw [Turn.Settles, ← List.append_assoc]
    refine called.closes_event trivial rfl ?_ ?_
    · rw [if_pos complete, full]
      rfl
    · simp [Event.shownAt, Event.level, Level.rank, Move.failure?, complete]
  | fails failed =>
    rw [Turn.Settles, ← List.append_assoc]
    refine called.closes_event trivial rfl ?_ ?_
    · simp [Event.isTotal, failed]
    · simp [Event.shownAt, Event.level, Level.rank, Move.failure?, failed]
  | grows full =>
    have unfailed : m.failure? = none := by simp [Move.failure?, full]
    rw [Turn.Settles, ← List.append_assoc]
    refine called.balances ⟨rfl, rfl, rfl⟩ unfailed (called.toKeeps.grow _) ?_ ?_
    · simpa [Transcode.grow, Event.offset?] using called.offsets
    · rw [if_pos full]
  | ends stopped nothing =>
    rw [Turn.Settles, ← List.append_nil (t ++ calling)]
    refine called.closes ⟨rfl, rfl, rfl⟩ stopped ?_ ?_ <;> rw [List.append_nil]
    · exact called.balanced
    · exact called.offsets
  | copiesLast stopped last =>
    rcases called.skips last with ⟨quiet, keeps, offsets⟩
    rw [Turn.Settles, ← List.append_assoc]
    exact called.closes quiet stopped keeps.balanced offsets
  | copies stopped front more =>
    rcases called.skips front with ⟨quiet, keeps, offsets⟩
    rw [Turn.Settles, ← List.append_assoc]
    refine called.balances quiet (Move.IsStopped.failure?_eq stopped) keeps offsets ?_
    rcases stopped with status | status <;> simp [status]

theorem balances_start (codec : σ) (input : Bytes) :
    Balances input [] (start codec input) := by
  refine ⟨⟨.nil, ?_, rfl, rfl, ?_, rfl⟩, rfl, rfl, rfl, rfl, rfl⟩
  · exact Nat.zero_le _
  · simp [start, Buffer.forInput, Buffer.capacity, Buffer.written, Buffer.room, Trace.capacity,
      Trace.growths]

/-- Turn by turn, what is known of all calls of a run is known of the call of each turn. -/
theorem runFrom_induction_of_calls {total : ℕ} {Q : Call → Prop} {motive : Cursor σ → Run σ → Prop}
    (done : ∀ {s : Cursor σ} {trace result codec}, Q (moveAt c s).call →
      turn c total s = .done trace result codec → motive s ⟨trace, result, codec⟩)
    (more : ∀ {s : Cursor σ} {trace next run}, Q (moveAt c s).call →
      turn c total s = .more trace next → motive next run →
        motive s { run with trace := trace ++ run.trace })
    {limit : ℕ} {s : Cursor σ} {run : Run σ} (stops : runFrom c total limit s = some run)
    (each : ∀ call ∈ run.trace.calls, Q call) : motive s run := by
  refine runFrom_induction
    (motive := fun s run => (∀ call ∈ run.trace.calls, Q call) → motive s run) ?_ ?_ stops each
  · intro s trace result codec ends each
    have calls := calls_turn c total s
    rw [ends, Turn.trace] at calls
    exact done (each _ (by simp [calls])) ends
  · intro s trace next run goesOn ih each
    have calls := calls_turn c total s
    rw [goesOn, Turn.trace] at calls
    simp only [Trace.calls_append, calls, List.mem_append, List.mem_singleton] at each
    exact more (each _ (.inl rfl)) goesOn (ih fun call made => each call (.inr made))

/-- The log of a whole run comes to agree with what it does. -/
theorem Balances.closes {limit : ℕ} {run : Run σ} (books : Balances input t s)
    (stops : runFrom c input.length limit s = some run)
    (bounded : ∀ call ∈ run.trace.calls, call.IsBounded) : Closes input (t ++ run.trace) := by
  refine runFrom_induction_of_calls
    (motive := fun s run => ∀ t, Balances input t s → Closes input (t ++ run.trace)) ?_ ?_ stops
    bounded t books
  · intro s trace result codec bounded ends t books
    have settles := books.turn bounded
    rwa [ends] at settles
  · intro s trace next run bounded goesOn ih t books
    have settles := books.turn bounded
    rw [goesOn] at settles
    rw [← List.append_assoc]
    exact ih _ settles

theorem run?_closes {limit : ℕ} {codec : σ} {run : Run σ} (nonempty : input ≠ [])
    (stops : run? c limit codec input = some run)
    (bounded : ∀ call ∈ run.trace.calls, call.IsBounded) : Closes input run.trace := by
  rw [run?, if_neg (by simpa using nonempty)] at stops
  exact (balances_start codec input).closes stops bounded

/-- The log of a run agrees with what the run does, for any codec that keeps to its input and its
room. One event announces the bytes that are copied, with the place of the first one. The totals of
a run that reads its input to the end are what it has read, written and copied, and how often it
lacked room. Each growth starts from the size that the one before has left, and adds twice the input
still to come. A failure of the codec is all that is reported above the level of debugging. -/
theorem log_agrees_with_run {limit : ℕ} {codec : σ} {run : Run σ} (nonempty : input ≠ [])
    (stops : run? c limit codec input = some run)
    (bounded : ∀ call ∈ run.trace.calls, call.IsBounded) :
    (run.trace.copiedBytes = [] → run.trace.offsets = []) ∧
    (run.trace.copiedBytes ≠ [] → ∃ (before : Trace) (byte : UInt8) (after : Trace),
      run.trace = before ++ .copied byte :: after ∧ before.copiedBytes = [] ∧
        run.trace.offsets = [before.consumed] ∧ input[before.consumed]? = some byte) ∧
    (∀ given room report, run.trace.calls.getLast? = some (.convert given room report) →
      report.status = .complete → report.read = given.length →
        run.trace.totals = [.transcoded
          ((run.trace.calls.map Call.read).sum + run.trace.copiedBytes.length)
          ((run.trace.calls.map Call.written).sum + run.trace.copiedBytes.length)
          run.trace.copiedBytes.length run.trace.timesFull]) ∧
    (∀ (before : Trace) (written oldCapacity capacity : ℕ) (after : Trace),
      run.trace = before ++ .event (.grewBuffer written oldCapacity capacity) :: after →
        oldCapacity = (before.growths.getLast?.map Growth.capacity).getD (2 * input.length) ∧
        oldCapacity < capacity ∧ written = before.produced ∧ written ≤ oldCapacity ∧
        capacity = oldCapacity + 2 * max (input.length - before.consumed) 1) ∧
    run.trace.events.filter (·.shownAt .info) =
      ((run.trace.calls.findSome? Call.failure?).map Event.codecFailed).toList := by
  have closes := run?_closes nonempty stops bounded
  refine ⟨fun none => ?_, fun some => ?_, ?_, ?_, closes.alarms⟩
  · simpa [none] using closes.offsets
  · rcases Trace.exists_first_copied some with ⟨before, byte, after, whole, first⟩
    rcases closes.balanced _ _ _ whole with ⟨here, announced⟩
    refine ⟨before, byte, after, whole, first, ?_, here⟩
    have one := closes.offsets
    have copied := List.length_pos_of_ne_nil some
    rw [Nat.min_eq_left copied, whole, Trace.offsets_append, announced first, List.length_append,
      List.length_singleton, Nat.add_eq_left, List.length_eq_zero_iff] at one
    rw [whole, Trace.offsets_append, announced first, one, List.append_nil]
  · intro given room report last complete whole
    rw [closes.totals, last, Option.bind_some, Call.status?, if_pos (by rw [complete]),
      ← closes.spent given room report last complete whole]
    rfl
  · intro before written oldCapacity capacity after whole
    rcases closes.balanced _ _ _ whole with ⟨produced, chained, fits, -, grown⟩
    exact ⟨chained, by omega, produced, fits, grown⟩

/-- A codec that lacks room twice and copies two bytes between, the first of them into a full block:
the block grows three times, and the second byte copied is not announced. -/
theorem log_agrees_with_run_erratic :
    ∃ run : Run (Scripted WebSession),
      run? (Scripted.codec webCodec) 9
        (.ofScript [⟨.outputFull, some 1, .copy, none⟩, ⟨.invalid, some 0, .fill, none⟩,
          ⟨.outputFull, some 0, .bytes [], none⟩] 0 (.identity 0xFF))
        [0x61, 0x62, 0xFF, 0x63] = some run ∧
      (∀ call ∈ run.trace.calls, call.IsBounded) ∧
      run.trace.offsets = [1] ∧
      run.trace.totals = [.transcoded 4 17 2 2] ∧
      run.trace.growths = [⟨1, 8, 14⟩, ⟨14, 14, 20⟩, ⟨15, 20, 24⟩] ∧
      run.trace.alarms = [] := by
  obtain ⟨run, stops⟩ : ∃ run, run? (Scripted.codec webCodec) 9
      (.ofScript [⟨.outputFull, some 1, .copy, none⟩, ⟨.invalid, some 0, .fill, none⟩,
        ⟨.outputFull, some 0, .bytes [], none⟩] 0 (.identity 0xFF))
      [0x61, 0x62, 0xFF, 0x63] = some run := ⟨_, rfl⟩
  have bounded : ∀ call ∈ run.trace.calls, call.IsBounded := by
    cases stops
    decide
  rcases log_agrees_with_run (by decide) stops bounded with ⟨-, -, complete, -, quiet⟩
  refine ⟨run, stops, bounded, ?_, ?_, ?_, ?_⟩ <;> cases stops
  · decide
  · exact (complete _ _ _ rfl rfl rfl).trans (by decide)
  · decide
  · exact quiet.trans (by decide)

end Transcode

end LinkCharset
