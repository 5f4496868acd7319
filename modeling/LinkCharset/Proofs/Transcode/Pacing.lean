import LinkCharset.Proofs.Transcode.Termination

/-! # Codecs that are paced by their input

How much a codec may still write is known only where its output is. But a codec that lacks room only
where little is left, and writes without reading only what is due before the next character, is
paced by its input: what is left of that and of what is due falls with every call that does
anything. So its runs end whatever comes of them, and however far a report that stops at a byte says
it has read. -/
namespace LinkCharset

/-- Room for any character and for a shift sequence before it. -/
def charRoom : Nat := 5

theorem Margin.wants_lt {m : Margin} (small : max m.ascii m.other < charRoom) (busy : Bool) (unit : ℕ) :
    m.wants busy unit < charRoom := by
  unfold wants
  split <;> omega

/-- How far a call comes, whatever it writes. For want of room it stops where little room is left,
behind some work unless it does nothing at all. `Fits` says which states a codec can be in before
what is left of an input, and `due` how many shift sequences can be written before more of the input
is read. -/
def Spends {σ : Type} (Fits : σ → Bytes → Prop) (due : σ → Bytes → ℕ) (codec : σ) (left : Bytes) (room : ℕ)
    (called : Conversion × σ) : Prop :=
  let (r, next) := called
  (r.written = r.output.length ∧ r.output.length ≤ room) ∧
    match r.status with
    | .complete => True
    | .outputFull =>
      r.read ≤ left.length ∧ Fits next (left.drop r.read) ∧ room < r.output.length + charRoom ∧
        (2 * (left.drop r.read).length + due next (left.drop r.read) <
            2 * left.length + due codec left ∨
          r.read = 0 ∧ r.output = [] ∧ due next left = due codec left)
    | .invalid | .incomplete => Fits next (left.drop (r.read + 1))
    | .failed _ => False

theorem Spends.imp {σ : Type} {Fits Keeps : σ → Bytes → Prop} {due : σ → Bytes → ℕ} {codec : σ}
    {left : Bytes} {room : ℕ} {called : Conversion × σ} (spends : Spends Fits due codec left room called)
    (keeps : ∀ next n, Fits next (left.drop n) → Keeps next (left.drop n)) :
    Spends Keeps due codec left room called := by
  rcases called with ⟨r, next⟩
  rcases spends with ⟨written, spends⟩
  refine ⟨written, ?_⟩
  cases status : r.status with
  | complete => trivial
  | outputFull =>
    simp only [status] at spends
    exact ⟨spends.1, keeps next _ spends.2.1, spends.2.2⟩
  | failed code => simp only [status] at spends
  | invalid =>
    simp only [status] at spends
    exact keeps next _ spends
  | incomplete =>
    simp only [status] at spends
    exact keeps next _ spends

theorem drop_succ_of_drop {left rest : Bytes} {n : ℕ} {b : UInt8} (front : left.drop n = b :: rest) :
    left.drop (n + 1) = rest := by
  rw [← List.drop_drop, front, List.drop_one, List.tail_cons]

theorem drop_add_cons {length : ℕ} (some : 1 ≤ length) (b : UInt8) (rest : Bytes) (n : ℕ) :
    (b :: rest).drop (length + n) = (rest.drop (length - 1)).drop n := by
  obtain ⟨k, rfl⟩ := Nat.exists_eq_add_of_le' some
  rw [List.drop_drop, Nat.add_right_comm, List.drop_succ_cons, Nat.add_sub_cancel]

/-- A codec whose calls come as far as `Spends` asks, from every state that fits. -/
structure Pacing {σ : Type} (c : Codec σ) where
  Fits : σ → Bytes → Prop
  due : σ → Bytes → ℕ
  due_le_one : ∀ codec left, due codec left ≤ 1
  spends : ∀ codec left room, Fits codec left →
    Spends Fits due codec left room (c.convert codec left room)

def Codec.IsMove {σ : Type} (c : Codec σ) (codec : σ) (left : Bytes) (m : Move) : Prop :=
  m.given = left ∧ m.report = (c.convert codec left m.offered.length).1

namespace Pacing

variable {σ : Type} {c : Codec σ} (P : Pacing c)

/-- How much there is to be done: each call does some of it, unless it lacks room. -/
def work (codec : σ) (left : Bytes) : ℕ := 2 * left.length + P.due codec left

section Moves

variable {codec : σ} {left : Bytes} {m : Move}

theorem spends_move (fits : P.Fits codec left) (move : c.IsMove codec left m) :
    Spends P.Fits P.due codec left m.offered.length
      (m.report, (c.convert codec left m.offered.length).2) := by
  rw [move.2]
  exact P.spends codec left m.offered.length fits

theorem slice_take (fits : P.Fits codec left) (move : c.IsMove codec left m) :
    m.slice.take m.report.written = m.report.output := by
  rcases P.spends_move fits move with ⟨⟨written, room⟩, -⟩
  rw [written, Move.slice, take_overlay room]

theorem isSteady (fits : P.Fits codec left) (move : c.IsMove codec left m) : m.call.IsSteady := by
  rcases P.spends_move fits move with ⟨⟨written, room⟩, spends⟩
  refine ⟨fun full => ?_, written.trans_le room⟩
  rw [full] at spends
  rw [move.1]
  exact spends.1

theorem written_le_appended (fits : P.Fits codec left) (move : c.IsMove codec left m) :
    m.report.written ≤ m.appended.length := by
  have steady := P.isSteady fits move
  have room : m.report.written ≤ m.offered.length := steady.2
  rw [Move.appended, List.length_append, List.length_take, Move.slice, length_overlay]
  omega

theorem failure?_eq (fits : P.Fits codec left) (move : c.IsMove codec left m) : m.failure? = none := by
  rcases P.spends_move fits move with ⟨-, spends⟩
  cases status : m.report.status with
  | failed code =>
    rw [status] at spends
    exact spends.elim
  | _ => rw [Move.failure?, status]

theorem tight_of_full (fits : P.Fits codec left) (move : c.IsMove codec left m)
    (full : m.report.status = .outputFull) : m.offered.length < m.report.written + charRoom := by
  rcases P.spends_move fits move with ⟨⟨written, -⟩, spends⟩
  rw [full] at spends
  rw [written]
  exact spends.2.2.1

/-- A move that is not the last does some of the work, unless it neither reads nor writes anything.
-/
theorem advances (fits : P.Fits codec left) (move : c.IsMove codec left m) (further : m.isLast = false) :
    P.Fits (c.convert codec left m.offered.length).2 m.rest ∧
      (P.work (c.convert codec left m.offered.length).2 m.rest < P.work codec left ∨
        P.work (c.convert codec left m.offered.length).2 m.rest = P.work codec left ∧ m.call.IsIdle) := by
  rcases P.spends_move fits move with ⟨⟨written, -⟩, spends⟩
  rcases move with ⟨rfl, -⟩
  by_cases full : m.report.status = .outputFull
  · have rest : m.rest = m.given.drop m.report.read := by
      rw [Move.rest, Move.taken, Move.copied, full]
      rfl
    rw [full, ← rest] at spends
    rcases spends with ⟨-, fits, -, does | ⟨unread, nothing, due⟩⟩
    · exact ⟨fits, .inl does⟩
    · rw [unread, List.drop_zero] at rest
      rw [nothing] at written
      exact ⟨fits, .inr ⟨by rw [work, work, rest, due], full, unread, written⟩⟩
  · have stopped := Move.isStopped_of_goesOn further full
    have shorter := Move.length_rest_lt further full
    have due := P.due_le_one (c.convert codec m.given m.offered.length).2 m.rest
    have rest : m.rest = m.given.drop (m.report.read + 1) := by
      rw [stopped.rest_eq, Move.left, List.drop_drop]
    refine ⟨?_, .inl (by rw [work, work]; omega)⟩
    rcases stopped with status | status <;>
    · rw [status, ← rest] at spends
      exact spends

end Moves

/-- Whatever slices the calls are offered, there are moves that make the whole conversion, if only
every now and then a slice has room for a character, as the one numbered `k` has. -/
theorem exists_moves {codec : σ} {left : Bytes} (fits : P.Fits codec left) (slices : ℕ → Bytes)
    (ample : ∀ n, ∃ k, n ≤ k ∧ charRoom ≤ (slices k).length)
    (k : ℕ) (roomy : charRoom ≤ (slices k).length) :
    ∃ moves : List Move, c.Makes codec left moves ∧
      ∀ (n : ℕ) (m : Move), moves[n]? = some m → m.offered = slices n := by
  let m : Move := ⟨left, slices 0, (c.convert codec left (slices 0).length).1⟩
  have move : c.IsMove codec left m := ⟨rfl, rfl⟩
  have first (moves : List Move)
      (later : ∀ (n : ℕ) (m : Move), moves[n]? = some m → m.offered = slices (n + 1)) :
      ∀ (n : ℕ) (x : Move), (m :: moves)[n]? = some x → x.offered = slices n := by
    intro n x at_n
    cases n with
    | zero => cases at_n; rfl
    | succ n => exact later n x at_n
  have ampleLater : ∀ n, ∃ k, n ≤ k ∧ charRoom ≤ (slices (k + 1)).length := by
    intro n
    rcases ample (n + 1) with ⟨k, beyond, roomy⟩
    cases k with
    | zero => omega
    | succ k => exact ⟨k, by omega, roomy⟩
  by_cases last : m.isLast
  · exact ⟨[m], ⟨rfl, rfl, by rw [if_pos last]⟩, first [] (by simp)⟩
  · rcases P.advances fits move (by simpa using last) with ⟨fits', progress⟩
    -- either some of the work is done, or the slice with room enough comes nearer
    obtain ⟨k, roomy, nearer⟩ : ∃ j, charRoom ≤ (slices (j + 1)).length ∧
        (P.work (c.convert codec left m.offered.length).2 m.rest < P.work codec left ∨
          P.work (c.convert codec left m.offered.length).2 m.rest = P.work codec left ∧ j < k) := by
      rcases progress with does | ⟨same, full, -, nothing⟩
      · rcases ampleLater 0 with ⟨j, -, roomy⟩
        exact ⟨j, roomy, .inl does⟩
      · have tight := P.tight_of_full fits move full
        rw [nothing, Nat.zero_add] at tight
        cases k with
        | zero => exact absurd roomy (Nat.not_le_of_lt tight)
        | succ k => exact ⟨k, roomy, .inr ⟨same, k.lt_succ_self⟩⟩
    obtain ⟨moves, makes, offered⟩ :=
      exists_moves fits' (fun n => slices (n + 1)) ampleLater k roomy
    exact ⟨m :: moves, ⟨rfl, rfl, by rw [if_neg last]; exact makes⟩, first moves offered⟩
termination_by (P.work codec left, k)
decreasing_by exact Prod.lex_iff.mpr nearer

open Transcode

variable {total : ℕ} {s next : Cursor σ} {trace : Trace}

theorem isMove_moveAt : c.IsMove s.codec s.remaining (moveAt c s) :=
  ⟨rfl, by rw [length_offered_moveAt]; rfl⟩

theorem written_le (fits : P.Fits s.codec s.remaining) : (moveAt c s).report.written ≤ s.buffer.room := by
  have steady := P.isSteady fits isMove_moveAt
  simpa using steady.2

/-- A turn that is not the last does some of the work, or makes room where there was little. -/
theorem work_turn (fits : P.Fits s.codec s.remaining) (goesOn : turn c total s = .more trace next) :
    P.Fits next.codec next.remaining ∧
      (P.work next.codec next.remaining < P.work s.codec s.remaining ∨
        P.work next.codec next.remaining = P.work s.codec s.remaining ∧
          s.buffer.room < charRoom ∧ s.buffer.room < next.buffer.room) := by
  have carries := turn_carries total (P.written_le fits)
  rw [goesOn] at carries
  rcases carries with ⟨further, -, -, codec, remaining, -, grown⟩
  have advances := P.advances fits isMove_moveAt further
  rw [length_offered_moveAt, ← codec, ← remaining] at advances
  refine ⟨advances.1, advances.2.imp_right fun idle => ?_⟩
  rcases idle with ⟨same, full, -, nothing⟩
  have tight := P.tight_of_full fits isMove_moveAt full
  have larger := grown full
  rw [length_offered_moveAt] at tight larger
  exact ⟨same, by omega, by omega⟩

/-- So a run through a growing block ends in time, and well, and its calls write no more than it
makes. -/
theorem runFrom_ends (total : ℕ) {limit : ℕ} (fits : P.Fits s.codec s.remaining)
    (enough : 6 * P.work s.codec s.remaining + (charRoom - s.buffer.room) < limit) :
    ∃ (run : Run σ) (output : Bytes), runFrom c total limit s = some run ∧
      run.result = .ok ⟨s.buffer.produced ++ output ++ [0]⟩ ∧
      (run.trace.calls.map Call.written).sum ≤ output.length ∧
      ∀ call ∈ run.trace.calls, call.IsSteady ∧ (call.IsIdle → call.room < charRoom) := by
  induction limit generalizing s with
  | zero => omega
  | succ limit ih =>
    have room := P.written_le fits
    have steady := P.isSteady fits isMove_moveAt
    have idle (idle : (moveAt c s).call.IsIdle) : (moveAt c s).call.room < charRoom := by
      rcases idle with ⟨full, -, nothing⟩
      have tight := P.tight_of_full fits isMove_moveAt full
      rwa [nothing, Nat.zero_add] at tight
    have calls := calls_turn c total s
    have carries := turn_carries total room
    have appended := P.written_le_appended fits isMove_moveAt
    rw [runFrom]
    cases turned : turn c total s with
    | done trace result codec =>
      rw [turned, Turn.trace] at calls
      rw [turned] at carries
      refine ⟨_, (moveAt c s).appended, rfl, ?_, ?_, ?_⟩
      · exact carries.2.2.trans (Move.outcome_singleton (P.failure?_eq fits isMove_moveAt) _)
      · simpa [calls, Call.written, Move.call] using appended
      · simpa [calls] using ⟨steady, idle⟩
    | more trace next =>
      rw [turned, Turn.trace] at calls
      rw [turned] at carries
      rcases P.work_turn fits turned with ⟨fits, progress⟩
      have enough : 6 * P.work next.codec next.remaining + (charRoom - next.buffer.room) < limit := by
        rcases progress with does | ⟨same, tight, larger⟩
        · simp only [charRoom] at enough ⊢
          omega
        · omega
      rcases ih fits enough with ⟨run, output, stops, result, written, later⟩
      rw [carries.2.2.2.2.2.1] at result
      simp only [stops, Option.map_some]
      refine ⟨_, (moveAt c s).appended ++ output, rfl, ?_, ?_, ?_⟩
      · simpa using result
      · simp only [Trace.calls_append, calls, List.map_append, List.map_cons, List.map_nil,
          List.sum_append, List.sum_singleton, Call.written, Move.call, List.length_append]
        omega
      · simpa [calls] using ⟨⟨steady, idle⟩, later⟩

/-- A codec whose own limit goes with the length of the input is never cut short. -/
theorem transcode_ends {codec : σ} {input : Bytes} (fits : P.Fits codec input) (some : input ≠ [])
    (limit : 12 * input.length + 12 ≤ c.callLimit codec input.length) :
    ∃ output : Bytes,
      runFrom c input.length (c.callLimit codec input.length) (start codec input) =
        .some (transcode c codec input) ∧
      (transcode c codec input).result = .ok ⟨output ++ [0]⟩ ∧
      ((transcode c codec input).trace.calls.map Call.written).sum ≤ output.length ∧
      ∀ call ∈ (transcode c codec input).trace.calls,
        call.IsSteady ∧ (call.IsIdle → call.room < charRoom) := by
  have due := P.due_le_one codec input
  have enough : 6 * P.work codec input + (charRoom - (Buffer.forInput input.length).room) <
      c.callLimit codec input.length := by
    simp only [work, charRoom]
    omega
  rcases P.runFrom_ends input.length (s := start codec input) fits enough with
    ⟨run, output, stops, ends⟩
  have same : transcode c codec input = run := by
    rw [transcode, run?, if_neg (by simpa using some), stops, Option.getD_some]
  rw [same]
  exact ⟨output, stops, ends⟩

end Pacing

end LinkCharset
