import LinkCharset.Proofs.Transcode.AppendOnly

/-! # Runs that end

A turn of a run spends some of the input, lets the codec write, or makes room. None of the three can
go on for ever, but none of them is there in every turn, and a turn that copies a byte or lets the
codec write takes room away again. What falls with every turn is a sum of the three: of the input
left, of what may still be written, and of the room that the codec may still lack. -/
namespace LinkCharset

namespace Call

def written : Call → ℕ
  | .convert _ _ report => report.written
  | _ => 0

def IsIdle : Call → Prop
  | .convert _ _ report => report.status = .outputFull ∧ report.read = 0 ∧ report.written = 0
  | _ => False

instance : DecidablePred IsIdle
  | .convert _ _ report =>
    inferInstanceAs (Decidable (report.status = .outputFull ∧ report.read = 0 ∧ report.written = 0))
  | .openSession .. | .reset | .close | .detect | .toAscii _ | .toUnicode _ => .isFalse id

def room : Call → ℕ
  | .convert _ room _ => room
  | _ => 0

/-- A call that keeps to its room, and to its input wherever it asks for more room. -/
def IsSteady : Call → Prop
  | .convert given room report =>
    (report.status = .outputFull → report.read ≤ given.length) ∧ report.written ≤ room
  | _ => True

theorem IsBounded.isSteady {call : Call} (bounded : call.IsBounded) : call.IsSteady := by
  cases call with
  | convert given room report => exact ⟨fun _ => bounded.1, bounded.2⟩
  | _ => trivial

theorem IsSteady.fitsRoom {call : Call} (steady : call.IsSteady) : call.FitsRoom := by
  cases call with
  | convert given room report => exact steady.2
  | _ => trivial

end Call

@[simp] theorem Buffer.room_put (b : Buffer) (byte : UInt8) : (b.put byte).room = b.room - 1 := by
  unfold put
  split
  · rename_i empty
    simp [room, empty]
  · rename_i first leftover some
    simp [room, some]

namespace Transcode

variable {σ : Type} {c : Codec σ} {total : ℕ} {s behind : Cursor σ} {trace : Trace}

/-- What a run does in its first `n` turns, or in all of them if it ends before. -/
def opening (c : Codec σ) (total : ℕ) : ℕ → Cursor σ → Trace
  | 0, _ => []
  | n + 1, s =>
    match turn c total s with
    | .done trace _ _ => trace
    | .more trace next => trace ++ opening c total n next

theorem opening_prefix {limit : ℕ} {run : Run σ} (stops : runFrom c total limit s = some run)
    (n : ℕ) : opening c total n s <+: run.trace := by
  refine runFrom_induction
    (motive := fun s run => ∀ n, opening c total n s <+: run.trace) ?_ ?_ stops n
  · intro s trace result codec ends n
    cases n with
    | zero => exact List.nil_prefix
    | succ n => simp [opening, ends]
  · intro s trace next run goesOn ih n
    cases n with
    | zero => exact List.nil_prefix
    | succ n => simpa [opening, goesOn] using ih n

theorem calls_opening {P : Cursor σ → Prop} {Q : Call → Prop}
    (keeps : ∀ {s : Cursor σ} {trace next}, P s → turn c total s = .more trace next → P next)
    (here : ∀ {s : Cursor σ}, P s → Q (moveAt c s).call) (holds : P s) (n : ℕ) :
    ∀ call ∈ (opening c total n s).calls, Q call := by
  induction n generalizing s with
  | zero => simp [opening]
  | succ n ih =>
    have calls := calls_turn c total s
    rw [opening]
    cases turned : turn c total s with
    | done trace result codec =>
      rw [turned, Turn.trace] at calls
      simpa [calls] using here holds
    | more trace next =>
      rw [turned, Turn.trace] at calls
      simpa [calls] using ⟨here holds, ih (keeps holds turned)⟩

/-- A codec whose calls keep to their room, and to their input where they ask for more room, do
nothing only in less than `K` bytes of room, and write no more than `W` bytes between them, however
long the run from a cursor goes on. -/
structure Progresses (c : Codec σ) (total : ℕ) (s : Cursor σ) (K W : ℕ) : Prop where
  steady : ∀ n, ∀ call ∈ (opening c total n s).calls, call.IsSteady
  moves : ∀ n, ∀ call ∈ (opening c total n s).calls, call.IsIdle → call.room < K
  writes : ∀ n, ((opening c total n s).calls.map Call.written).sum ≤ W

/-- A finished run shows all that matters. -/
theorem progresses_of_run {limit K W : ℕ} {run : Run σ} (stops : runFrom c total limit s = some run)
    (steady : ∀ call ∈ run.trace.calls, call.IsSteady)
    (moves : ∀ call ∈ run.trace.calls, call.IsIdle → call.room < K)
    (writes : (run.trace.calls.map Call.written).sum ≤ W) : Progresses c total s K W := by
  have first (n : ℕ) : (opening c total n s).calls <+: run.trace.calls := by
    rcases opening_prefix stops n with ⟨later, whole⟩
    rw [← whole, Trace.calls_append]
    exact List.prefix_append _ _
  refine ⟨fun n call made => ?_, fun n call made => ?_, fun n => ?_⟩
  · exact steady call ((first n).subset made)
  · exact moves call ((first n).subset made)
  · exact (((first n).map Call.written).sublist.sum_le_sum (by simp)).trans writes

namespace Progresses

variable {K W : ℕ} (progresses : Progresses c total s K W)
include progresses

theorem mono {L : ℕ} (more : K ≤ L) : Progresses c total s L W where
  steady := progresses.steady
  moves n call made idle := (progresses.moves n call made idle).trans_le more
  writes := progresses.writes

theorem first : (moveAt c s).call.IsSteady ∧ ((moveAt c s).call.IsIdle → s.buffer.room < K) ∧
    (moveAt c s).report.written ≤ W := by
  have calls : (opening c total 1 s).calls = [(moveAt c s).call] := by
    rw [← calls_turn c total s, opening]
    cases turn c total s <;> simp [opening, Turn.trace]
  have made : (moveAt c s).call ∈ (opening c total 1 s).calls := by simp [calls]
  refine ⟨progresses.steady 1 _ made, fun idle => ?_, ?_⟩
  · simpa [Move.call, Call.room] using progresses.moves 1 _ made idle
  · simpa [calls, Move.call, Call.written] using progresses.writes 1

theorem next (goesOn : turn c total s = .more trace behind) :
    Progresses c total behind K (W - (moveAt c s).report.written) := by
  have calls (n : ℕ) : (opening c total (n + 1) s).calls =
      (moveAt c s).call :: (opening c total n behind).calls := by
    have here := calls_turn c total s
    rw [goesOn, Turn.trace] at here
    simp [opening, goesOn, here]
  refine ⟨fun n call made => ?_, fun n call made => ?_, fun n => ?_⟩
  · exact progresses.steady (n + 1) call (by simp [calls, made])
  · exact progresses.moves (n + 1) call (by simp [calls, made])
  · have all := progresses.writes (n + 1)
    simp only [calls, List.map_cons, List.sum_cons, Call.written, Move.call] at all
    omega

end Progresses

theorem room_skip (goesOn : skip total s = .more trace behind) :
    s.buffer.room ≤ behind.buffer.room + 1 := by
  rw [skip] at goesOn
  split at goesOn
  · cases goesOn
  · rename_i byte rest _
    dsimp only at goesOn
    split at goesOn <;> cases goesOn
    rw [copy]
    by_cases full : s.buffer.isFull = true
    · have none : s.buffer.room = 0 := by simpa [Buffer.isFull] using full
      omega
    · simp [full]
      omega

theorem room_turn_of_stopped (fits : (moveAt c s).report.written ≤ s.buffer.room)
    (stopped : (moveAt c s).IsStopped) (goesOn : turn c total s = .more trace behind) :
    s.buffer.room ≤ behind.buffer.room + (moveAt c s).report.written + 1 := by
  have left := room_call fits
  have skips : ∃ trace, skip total (call c s).2.2 = .more trace behind := by
    have reacts : (react total (moveAt c s).report.status (call c s).2.2).after (call c s).2.1 =
        .more trace behind := goesOn
    rcases stopped with status | status <;>
    · rw [status, react] at reacts
      cases skipped : skip total (call c s).2.2 with
      | done trace result codec => rw [skipped] at reacts; cases reacts
      | more trace next => rw [skipped] at reacts; cases reacts; exact ⟨_, rfl⟩
  rcases skips with ⟨trace, skips⟩
  have taken := room_skip skips
  omega

/-- How many more turns there are at most: two for each byte of the input, one for each byte that
may still be written, and one for each byte of room that the codec may lack. -/
def turnsLeft (K W : ℕ) (s : Cursor σ) : ℕ := 2 * s.remaining.length + W + (K - s.buffer.room)

theorem turnsLeft_turn {K W : ℕ} (progresses : Progresses c total s K W)
    (goesOn : turn c total s = .more trace behind) :
    turnsLeft K (W - (moveAt c s).report.written) behind < turnsLeft K W s := by
  rcases progresses.first with ⟨steady, moves, writes⟩
  have fits : (moveAt c s).report.written ≤ s.buffer.room := by
    simpa [Move.call, Call.IsSteady] using steady.2
  have carries := turn_carries total fits
  rw [goesOn] at carries
  rcases carries with ⟨further, -, -, -, remaining, -, grown⟩
  rw [turnsLeft, turnsLeft, remaining]
  by_cases full : (moveAt c s).report.status = .outputFull
  · -- the block has grown: enough to do without what has been written, or the codec was idle
    have read : (moveAt c s).rest.length + (moveAt c s).report.read = s.remaining.length := by
      have inside : (moveAt c s).report.read ≤ s.remaining.length := steady.1 full
      simp only [Move.rest, Move.taken, Move.copied, full, List.length_drop, List.length_nil]
      change s.remaining.length - _ + _ = _
      omega
    have room := grown full
    rw [length_offered_moveAt] at room
    by_cases idle : (moveAt c s).report.read = 0 ∧ (moveAt c s).report.written = 0
    · have lacks := moves ⟨full, idle⟩
      omega
    · omega
  · have stopped := Move.isStopped_of_goesOn further full
    have shorter := Move.length_rest_lt further full
    have room := room_turn_of_stopped fits stopped goesOn
    change (moveAt c s).rest.length < s.remaining.length at shorter
    omega

theorem runFrom_stops {K W limit : ℕ} (progresses : Progresses c total s K W)
    (enough : turnsLeft K W s < limit) :
    ∃ run, runFrom c total limit s = some run ∧ run.trace.calls.length ≤ turnsLeft K W s + 1 ∧
      ∀ call ∈ run.trace.calls, call.IsSteady := by
  induction limit generalizing s W with
  | zero => omega
  | succ limit ih =>
    have calls := calls_turn c total s
    have steady := progresses.first.1
    rw [runFrom]
    cases turned : turn c total s with
    | done trace result codec =>
      rw [turned, Turn.trace] at calls
      exact ⟨_, rfl, by simp [calls], by simpa [calls] using steady⟩
    | more trace behind =>
      rw [turned, Turn.trace] at calls
      have nearer := turnsLeft_turn progresses turned
      rcases ih (progresses.next turned) (by omega) with ⟨run, stops, few, later⟩
      simp only [stops, Option.map_some]
      refine ⟨_, rfl, ?_, ?_⟩
      · simp only [Trace.calls_append, calls, List.length_append, List.length_singleton]
        omega
      · simpa [calls] using ⟨steady, later⟩

theorem runFrom_mono {limit more : ℕ} {run : Run σ} (stops : runFrom c total limit s = some run)
    (enough : limit ≤ more) : runFrom c total more s = some run := by
  induction limit generalizing s more run with
  | zero => cases stops
  | succ limit ih =>
    obtain ⟨more, rfl⟩ : ∃ n, more = n + 1 := ⟨more - 1, by omega⟩
    rw [runFrom] at stops ⊢
    cases turned : turn c total s with
    | done trace result codec => simpa [turned] using stops
    | more trace behind =>
      simp only [turned, Option.map_eq_some_iff] at stops ⊢
      rcases stops with ⟨later, stops, rfl⟩
      exact ⟨later, ih stops (by omega), rfl⟩

/-- A run within the limit that a codec sets is the run, if it does not stall. -/
theorem eq_transcode_of_run? {codec : σ} {input : Bytes} {limit : ℕ} {run : Run σ}
    (stops : run? c limit codec input = some run)
    (unstalled : (transcode c codec input).result ≠ .error .stalled) :
    run = transcode c codec input := by
  have within : run? c (c.callLimit codec input.length) codec input =
      some (transcode c codec input) := by
    rw [transcode] at unstalled ⊢
    cases ends : run? c (c.callLimit codec input.length) codec input with
    | none => simp [ends] at unstalled
    | some run => rfl
  rw [run?] at stops within
  split at stops <;> rename_i empty
  · rw [if_pos empty] at within
    exact Option.some.inj (stops.symm.trans within)
  · rw [if_neg empty] at within
    rcases Nat.le_total limit (c.callLimit codec input.length) with less | more
    · exact Option.some.inj ((runFrom_mono stops less).symm.trans within)
    · exact Option.some.inj (stops.symm.trans (runFrom_mono within more))

/-- How often a codec that makes progress is called for an input of some length at most. -/
def callBound (length K W : ℕ) : ℕ := max (2 * length) K + W + 1

/-- A conversion by a codec that makes progress ends, and fails only if the codec does. -/
theorem run?_stops {codec : σ} {input : Bytes} {K W : ℕ}
    (progresses : Progresses c input.length (start codec input) K W) :
    ∃ run, run? c (callBound input.length K W) codec input = some run ∧
      run.trace.calls.length ≤ callBound input.length K W ∧
      ∀ failure, run.result = .error failure → ∃ code, failure = .codec code := by
  obtain ⟨run, stops, few, steady⟩ : ∃ run,
      run? c (callBound input.length K W) codec input = some run ∧
        run.trace.calls.length ≤ callBound input.length K W ∧
          ∀ call ∈ run.trace.calls, call.IsSteady := by
    by_cases nothing : input = []
    · exact ⟨_, by rw [run?, nothing]; rfl, by simp, by simp⟩
    · have turns : turnsLeft K W (start codec input) + 1 = callBound input.length K W := by
        simp only [turnsLeft, callBound, start, Buffer.forInput, Buffer.room, List.length_nil]
        omega
      have enough : turnsLeft K W (start codec input) < callBound input.length K W := by omega
      rcases runFrom_stops progresses enough with ⟨run, stops, few, steady⟩
      refine ⟨run, ?_, by omega, steady⟩
      rwa [run?, if_neg (by simpa using nothing)]
  rcases run?_makes stops fun call made => (steady call made).fitsRoom with
    ⟨moves, -, -, -, result⟩
  refine ⟨run, stops, few, fun failure fails => ?_⟩
  exact Move.eq_codec_of_outcome (result ▸ fails)

end Transcode

end LinkCharset
