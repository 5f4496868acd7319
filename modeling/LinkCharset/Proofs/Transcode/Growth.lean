import LinkCharset.Proofs.Transcode.Ledger

/-! # How often the block grows

A codec is sparing if it makes no more than three bytes of each one it reads, and lacks room only
where a few bytes are left of it. The input left and the room are then worth a number of growths:
neither the calls nor the bytes copied between them add to it, and each growth takes one. What a run
starts with is worth a logarithmic number of growths, or a single one if no more than two bytes are
written for each one. As a growth comes where the block is nearly full, it moves about all that has
been made. -/
namespace LinkCharset

namespace Call

/-- A conversion that keeps to its input and its room, writes no more than three bytes for each one
it reads, and lacks room only where fewer than four bytes are free and there is input left. -/
def IsSparing : Call → Prop
  | .convert given room report =>
    report.read ≤ given.length ∧ report.written ≤ room ∧ report.written ≤ 3 * report.read ∧
      (report.status = .outputFull → report.read < given.length ∧ room < report.written + 4)
  | _ => True

instance : DecidablePred IsSparing
  | .convert given room report =>
    inferInstanceAs (Decidable (report.read ≤ given.length ∧ report.written ≤ room ∧
      report.written ≤ 3 * report.read ∧
        (report.status = .outputFull → report.read < given.length ∧ room < report.written + 4)))
  | .openSession .. | .reset | .close | .detect | .toAscii _ | .toUnicode _ => .isTrue trivial

theorem IsSparing.isBounded {call : Call} (sparing : call.IsSparing) : call.IsBounded := by
  cases call with
  | convert given room report => exact ⟨sparing.1, sparing.2.1⟩
  | _ => trivial

theorem IsSparing.written_le {call : Call} (sparing : call.IsSparing) :
    call.written ≤ 3 * call.read := by
  cases call with
  | convert given room report => exact sparing.2.2.1
  | _ => exact Nat.zero_le _

end Call

namespace Trace

def moved (t : Trace) : ℕ := (t.growths.map Growth.written).sum

@[simp] theorem moved_append (t u : Trace) : (t ++ u).moved = t.moved + u.moved := by
  simp [moved]

theorem produced_le {t : Trace} (sparing : ∀ call ∈ t.calls, call.IsSparing) :
    t.produced ≤ 3 * t.consumed := by
  have each : (t.calls.map Call.written).sum ≤ (t.calls.map fun call => 3 * call.read).sum :=
    List.sum_le_sum fun call made => (sparing call made).written_le
  rw [List.sum_map_mul_left] at each
  rw [produced, consumed]
  omega

theorem exists_event {t : Trace} {e : Event} (logged : e ∈ t.events) :
    ∃ before after : Trace, t = before ++ .event e :: after := by
  rcases List.mem_filterMap.mp logged with ⟨note, here, has⟩
  rcases List.append_of_mem here with ⟨before, after, rfl⟩
  cases note <;> cases has
  exact ⟨before, after, rfl⟩

theorem event_of_growth {t : Trace} {g : Growth} (logged : g ∈ t.growths) :
    .grewBuffer g.written g.oldCapacity g.capacity ∈ t.events := by
  rcases List.mem_filterMap.mp logged with ⟨e, here, has⟩
  cases e <;> cases has
  exact here

end Trace

namespace Transcode

variable {σ : Type} {c : Codec σ} {total : ℕ} {s : Cursor σ} {t : Trace}

/-- What is left of the input and of the room, as a number of growths: a growth takes one of them,
and nothing adds to them, as long as no more than so many bytes are written for each one read. -/
structure IsPotential (rate : ℕ) (φ : ℕ → ℕ → ℕ) : Prop where
  reads (left room read written : ℕ) : read ≤ left → written ≤ room → written ≤ rate * read →
    φ (left - read) (room - written) ≤ φ left room
  grows (left room : ℕ) : 0 < left → room < 4 → φ left (room + 2 * left) + 1 ≤ φ left room

/-- The growths on the way from one cursor to another are paid for, and each of them comes where
fewer than four bytes are free. -/
structure Pays (φ : ℕ → ℕ → ℕ) (s : Cursor σ) (growths : List Growth) (next : Cursor σ) : Prop where
  potential : growths.length + φ next.remaining.length next.buffer.room ≤
    φ s.remaining.length s.buffer.room
  written : ∀ g ∈ growths, s.buffer.capacity ≤ g.written + 3
  capacity : s.buffer.capacity ≤ next.buffer.capacity

theorem Pays.trans {φ : ℕ → ℕ → ℕ} {next last : Cursor σ} {growths more : List Growth}
    (first : Pays φ s growths next) (second : Pays φ next more last) :
    Pays φ s (growths ++ more) last where
  potential := by
    have here := first.potential
    have later := second.potential
    rw [List.length_append]
    omega
  written g among := by
    rcases List.mem_append.mp among with here | later
    · exact first.written g here
    · exact first.capacity.trans (second.written g later)
  capacity := first.capacity.trans second.capacity

def Turn.Pays (φ : ℕ → ℕ → ℕ) (s : Cursor σ) : Turn σ → Prop
  | .done trace _ _ => ∃ last, Transcode.Pays φ s trace.growths last
  | .more trace next => Transcode.Pays φ s trace.growths next

theorem growths_notice : (notice total s).growths = [] := by
  rw [notice]
  split <;> rfl

section Potential

variable {rate : ℕ} {φ : ℕ → ℕ → ℕ} (potential : IsPotential rate φ) (positive : 0 < rate)
include potential

/-- A sparing call pays with what it reads for what it writes. -/
theorem pays_call (sparing : (moveAt c s).call.IsSparing)
    (rated : (moveAt c s).call.written ≤ rate * (moveAt c s).call.read) :
    Pays φ s (Trace.growths (call c s).2.1) (call c s).2.2 ∧
      ((moveAt c s).report.status = .outputFull →
        0 < (call c s).2.2.remaining.length ∧ (call c s).2.2.buffer.room < 4) := by
  rw [Move.call, Call.IsSparing, length_offered_moveAt] at sparing
  rcases sparing with ⟨read, fits, -, full⟩
  have room := room_call fits
  have remaining : (call c s).2.2.remaining.length =
      s.remaining.length - (moveAt c s).report.read := by
    change (s.remaining.drop _).length = _
    rw [List.length_drop]
    rfl
  rw [growths_calling]
  refine ⟨⟨?_, by simp, ?_⟩, fun lacks => ?_⟩
  · rw [remaining, room, List.length_nil, Nat.zero_add]
    exact potential.reads _ _ _ _ read fits rated
  · rw [capacity_call fits]
  · have lacking := full lacks
    change (moveAt c s).report.read < s.remaining.length ∧ _ at lacking
    omega

theorem pays_grow (some : 0 < s.remaining.length) (tight : s.buffer.room < 4) (tooShort : ℕ) :
    Pays φ s (Trace.growths [.event (grow s.buffer s.remaining.length).1])
      { s with buffer := s.buffer.grow s.remaining.length, tooShort } := by
  refine ⟨?_, ?_, ?_⟩
  · have taken := potential.grows _ _ some tight
    rw [Buffer.room_grow, Nat.max_eq_left some, Nat.add_comm]
    exact taken
  · intro g here
    rw [List.mem_singleton.mp here]
    simp only [Buffer.capacity]
    omega
  · rw [Buffer.capacity_grow, Buffer.grownCapacity]
    exact Nat.le_add_right _ _

include positive

/-- A byte copied takes as much room as it makes needless. -/
theorem pays_put {byte : UInt8} {rest : Bytes} (front : s.remaining = byte :: rest)
    (roomy : 0 < s.buffer.room) (invalid : ℕ) :
    Pays φ s [] { s with remaining := rest, buffer := s.buffer.put byte, invalid } := by
  refine ⟨?_, by simp, ?_⟩
  · have spent := potential.reads s.remaining.length s.buffer.room 1 1
    rw [front, List.length_cons] at spent ⊢
    rw [Buffer.room_put, List.length_nil, Nat.zero_add]
    exact spent (by omega) roomy (by omega)
  · rw [Buffer.capacity_put roomy]

theorem pays_copy {byte : UInt8} {rest : Bytes} (front : s.remaining = byte :: rest) (invalid : ℕ) :
    Pays φ s (copy s.buffer byte rest).1.growths
      { s with remaining := rest, buffer := (copy s.buffer byte rest).2, invalid } := by
  rw [copy]
  by_cases full : s.buffer.isFull = true
  · have none : s.buffer.room = 0 := by simpa [Buffer.isFull] using full
    have left : rest.length + 1 = s.remaining.length := by rw [front, List.length_cons]
    have grown := pays_grow potential (s := s) (by omega) (by omega) s.tooShort
    rw [if_pos full, left]
    have room : 0 < (s.buffer.grow s.remaining.length).room := by
      rw [Buffer.room_grow]
      omega
    exact grown.trans (pays_put potential positive
      (s := { s with buffer := s.buffer.grow s.remaining.length }) front room invalid)
  · rw [if_neg full]
    refine pays_put potential positive front ?_ invalid
    simpa [Buffer.isFull, Nat.pos_iff_ne_zero] using full

theorem turn_pays (c : Codec σ) (total : ℕ) {s : Cursor σ} (sparing : (moveAt c s).call.IsSparing)
    (rated : (moveAt c s).call.written ≤ rate * (moveAt c s).call.read) :
    (turn c total s).Pays φ s := by
  rcases pays_call potential sparing rated with ⟨called, full⟩
  have reacts := turn_reacts c total s
  generalize (call c s).2.1 = calling at called reacts
  generalize (call c s).2.2 = behind at called full reacts
  generalize turn c total s = turned at reacts ⊢
  have copies {byte : UInt8} {rest : Bytes} (front : behind.remaining = byte :: rest) (invalid : ℕ) :
      Pays φ s (calling ++ (notice total behind ++ (copy behind.buffer byte rest).1)).growths
        { behind with remaining := rest, buffer := (copy behind.buffer byte rest).2, invalid } := by
    rw [Trace.growths_append, Trace.growths_append, growths_notice, List.nil_append]
    exact called.trans (pays_copy potential positive front invalid)
  cases reacts with
  | completes | fails =>
    refine ⟨behind, ?_⟩
    rw [Trace.growths_append]
    simpa [Event.growth?] using called
  | ends => exact ⟨behind, called⟩
  | grows lacks =>
    rw [Turn.Pays, Trace.growths_append]
    exact called.trans (pays_grow potential (full lacks).1 (full lacks).2 _)
  | copiesLast stopped last => exact ⟨_, copies last behind.invalid⟩
  | copies stopped front more => exact copies front _

theorem run_pays {limit : ℕ} {run : Run σ} (stops : runFrom c total limit s = some run)
    (sparing : ∀ call ∈ run.trace.calls, call.IsSparing)
    (rated : ∀ call ∈ run.trace.calls, call.written ≤ rate * call.read) :
    ∃ last, Pays φ s run.trace.growths last := by
  refine runFrom_induction_of_calls (Q := fun call => call.IsSparing ∧ call.written ≤ rate * call.read)
    (motive := fun s run => ∃ last, Pays φ s run.trace.growths last) ?_ ?_ stops
    fun call made => ⟨sparing call made, rated call made⟩
  · rintro s trace result codec ⟨sparing, rated⟩ ends
    have pays := turn_pays potential positive c total sparing rated
    rwa [ends] at pays
  · rintro s trace next run ⟨sparing, rated⟩ goesOn ⟨last, later⟩
    have pays := turn_pays potential positive c total sparing rated
    rw [goesOn] at pays
    refine ⟨last, ?_⟩
    rw [Trace.growths_append]
    exact pays.trans later

end Potential

/-- Where three bytes are written for each one, a growth leaves a third of the room that is lacking.
-/
theorem isPotential_clog :
    IsPotential 3 fun left room => Nat.clog 3 (3 * (3 * left + 1 - room)) where
  reads left room read written inside fits rated := Nat.clog_mono_right 3 (by omega)
  grows left room some tight := by
    have more (n : ℕ) (positive : 0 < n) : Nat.clog 3 (3 * n) = Nat.clog 3 n + 1 := by
      rw [Nat.clog_of_two_le (by decide) (by omega)]
      congr 2
      omega
    rw [more (3 * left + 1 - room) (by omega)]
    by_cases enough : left + 1 ≤ room
    · rw [show 3 * left + 1 - (room + 2 * left) = 0 by omega, Nat.mul_zero, Nat.clog_zero_right]
      exact Nat.le_add_left 1 _
    · rw [more _ (by omega), Nat.clog_of_two_le (n := 3 * left + 1 - room) (by decide) (by omega)]
      exact Nat.add_le_add_right (Nat.add_le_add_right (Nat.clog_mono_right 3 (by omega)) 1) 1

/-- Where two bytes are written for each one, the room falls short by less than one byte's, and one
growth makes up for it. -/
theorem isPotential_min :
    IsPotential 2 fun left room => min (3 * left + 1 - room) (2 * left - room + 1) where
  reads left room read written inside fits rated := by omega
  grows left room some tight := by omega

section Run

variable {limit : ℕ} {codec : σ} {input : Bytes} {run : Run σ}
  (stops : run? c limit codec input = some run)
  (sparing : ∀ call ∈ run.trace.calls, call.IsSparing)
include stops sparing

theorem run?_pays {rate : ℕ} {φ : ℕ → ℕ → ℕ} (potential : IsPotential rate φ) (positive : 0 < rate)
    (rated : ∀ call ∈ run.trace.calls, call.written ≤ rate * call.read) :
    run.trace.growths.length ≤ φ input.length (2 * input.length) ∧
      ∀ g ∈ run.trace.growths, 2 * input.length ≤ g.written + 3 := by
  by_cases nothing : input = []
  · subst nothing
    cases stops
    exact ⟨Nat.zero_le _, by simp [Trace.growths]⟩
  rw [run?, if_neg (by simpa using nothing)] at stops
  rcases run_pays potential positive stops sparing rated with ⟨last, pays⟩
  have paid := pays.potential
  have tight := pays.written
  simp only [start, Buffer.forInput, Buffer.capacity, Buffer.room, Buffer.written, List.length_nil,
    Nat.zero_add] at paid tight
  exact ⟨by omega, tight⟩

theorem length_growths_le : run.trace.growths.length ≤ Nat.log 3 input.length + 2 := by
  have few := (run?_pays stops sparing isPotential_clog (by decide) fun call made =>
    (sparing call made).written_le).1
  refine few.trans (Nat.clog_le_of_le_pow ?_)
  have most : input.length < 3 ^ (Nat.log 3 input.length + 1) :=
    Nat.lt_pow_succ_log_self (by decide) _
  rw [pow_succ]
  omega

theorem growth_moves {g : Growth} (logged : g ∈ run.trace.growths) :
    2 * input.length - 3 ≤ g.written ∧ g.written ≤ 3 * input.length := by
  constructor
  · have tight := (run?_pays stops sparing isPotential_clog (by decide) fun call made =>
      (sparing call made).written_le).2 g logged
    omega
  · by_cases nothing : input = []
    · subst nothing
      cases stops
      cases logged
    have closes := run?_closes nothing stops fun call made => (sparing call made).isBounded
    rcases Trace.exists_event (Trace.event_of_growth logged) with ⟨before, after, whole⟩
    rcases closes.balanced _ _ _ whole with ⟨produced, -, -, consumed, -⟩
    have first : ∀ call ∈ before.calls, call.IsSparing :=
      fun call made => sparing call (by simp [whole, made])
    have made := Trace.produced_le first
    omega

/-- So the bytes moved go with the number of growths. -/
theorem moved_bounds :
    run.trace.growths.length * (2 * input.length - 3) ≤ run.trace.moved ∧
      run.trace.moved ≤ run.trace.growths.length * (3 * input.length) := by
  have each (n : ℕ) (moved : n ∈ run.trace.growths.map Growth.written) :
      2 * input.length - 3 ≤ n ∧ n ≤ 3 * input.length := by
    rcases List.mem_map.mp moved with ⟨g, logged, rfl⟩
    exact growth_moves stops sparing logged
  have least := List.card_nsmul_le_sum _ _ fun n moved => (each n moved).1
  have most := List.sum_le_card_nsmul _ _ fun n moved => (each n moved).2
  simp only [List.length_map, smul_eq_mul] at least most
  exact ⟨least, most⟩

end Run

def Sparing (c : Codec σ) (total : ℕ) (s : Cursor σ) : Prop :=
  ∀ n, ∀ call ∈ (opening c total n s).calls, call.IsSparing

theorem reads_opening (n : ℕ) (bounded : ∀ call ∈ (opening c total n s).calls, call.IsBounded) :
    ((opening c total n s).calls.map Call.read).sum ≤ s.remaining.length := by
  induction n generalizing s with
  | zero => simp [opening]
  | succ n ih =>
    have calls := calls_turn c total s
    rw [opening] at bounded ⊢
    cases turned : turn c total s with
    | done trace result codec =>
      rw [turned, Turn.trace] at calls
      rw [turned] at bounded
      have first : (moveAt c s).call.IsBounded := bounded _ (by simp [calls])
      have read : (moveAt c s).report.read ≤ s.remaining.length := first.1
      simpa [calls, Call.read, Move.call] using read
    | more trace next =>
      rw [turned, Turn.trace] at calls
      simp only [turned, Trace.calls_append, calls, List.mem_append, List.mem_singleton] at bounded
      have first : (moveAt c s).call.IsBounded := bounded _ (.inl rfl)
      have fits : (moveAt c s).report.written ≤ s.buffer.room := by
        simpa [Move.call, Call.IsBounded] using first.2
      have carries := turn_carries total fits
      rw [turned] at carries
      have shorter : next.remaining.length + (moveAt c s).report.read ≤ s.remaining.length := by
        have read : (moveAt c s).report.read ≤ s.remaining.length := first.1
        rw [carries.2.2.2.2.1, Move.rest, List.length_drop, Move.taken]
        change s.remaining.length - _ + _ ≤ _
        omega
      have later := ih fun call made => bounded call (.inr made)
      simp only [Trace.calls_append, calls, List.map_append, List.map_cons, List.map_nil,
        List.sum_append, List.sum_singleton, Call.read, Move.call]
      omega

theorem Sparing.progresses (sparing : Sparing c total s) :
    Progresses c total s 4 (3 * s.remaining.length) where
  steady n call made := (sparing n call made).isBounded.isSteady
  moves n call made idle := by
    have here := sparing n call made
    cases call with
    | convert given room report =>
      rcases idle with ⟨full, -, nothing⟩
      have tight := (here.2.2.2 full).2
      rw [nothing] at tight
      exact tight
    | _ => exact idle.elim
  writes n := by
    have reads := reads_opening n fun call made => (sparing n call made).isBounded
    calc ((opening c total n s).calls.map Call.written).sum
        ≤ ((opening c total n s).calls.map fun call => 3 * call.read).sum :=
          List.sum_le_sum fun call made => (sparing n call made).written_le
      _ ≤ 3 * s.remaining.length := by
          rw [List.sum_map_mul_left]
          omega

/-- A run that has ended is all that there is to see of it. -/
theorem opening_eq {limit : ℕ} {run : Run σ} (stops : runFrom c total limit s = some run) :
    opening c total limit s = run.trace := by
  induction limit generalizing s run with
  | zero => cases stops
  | succ limit ih =>
    rw [runFrom] at stops
    rw [opening]
    cases turned : turn c total s with
    | done trace result codec =>
      rw [turned] at stops
      cases stops
      rfl
    | more trace next =>
      simp only [turned, Option.map_eq_some_iff] at stops
      rcases stops with ⟨later, stops, rfl⟩
      exact congrArg (trace ++ ·) (ih stops)

/-- A finished run shows whether the calls are sparing. -/
theorem sparing_of_run {limit : ℕ} {run : Run σ} (stops : runFrom c total limit s = some run)
    (sparing : ∀ call ∈ run.trace.calls, call.IsSparing) : Sparing c total s := by
  intro n call made
  rcases opening_prefix stops n with ⟨later, whole⟩
  exact sparing call (by rw [← whole, Trace.calls_append]; exact List.mem_append_left _ made)

theorem Sparing.ends {codec : σ} {input : Bytes}
    (sparing : Sparing c input.length (start codec input)) :
    ∃ run, run? c (callBound input.length 4 (3 * input.length)) codec input = some run := by
  rcases run?_stops sparing.progresses with ⟨run, stops, -⟩
  exact ⟨run, stops⟩

theorem Sparing.calls {codec : σ} {input : Bytes} {limit : ℕ} {run : Run σ}
    (sparing : Sparing c input.length (start codec input))
    (stops : run? c limit codec input = some run) : ∀ call ∈ run.trace.calls, call.IsSparing := by
  intro call made
  rw [run?] at stops
  split at stops
  · cases stops
    cases made
  · exact sparing limit call (opening_eq stops ▸ made)

end Transcode

end LinkCharset
