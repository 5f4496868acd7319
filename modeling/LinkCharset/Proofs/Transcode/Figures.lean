import LinkCharset.Proofs.Transcode.Termination

/-! # What a trace comes to

The calls of a trace say how much of an input they have read and how much they have written, and its
events say how large the block is and what has been noticed. These figures add up as a trace goes
on, so that each note can be held against those of the notes before it. -/
namespace LinkCharset

namespace Call

def read : Call → ℕ
  | .convert _ _ report => report.read
  | _ => 0

def status? : Call → Option Status
  | .convert _ _ report => some report.status
  | _ => none

def failure? (call : Call) : Option Int :=
  match call.status? with
  | some (.failed code) => some code
  | _ => none

end Call

structure Growth where
  written : ℕ
  oldCapacity : ℕ
  capacity : ℕ
  deriving DecidableEq

namespace Event

def growth? : Event → Option Growth
  | grewBuffer written oldCapacity capacity => some ⟨written, oldCapacity, capacity⟩
  | _ => none

def offset? : Event → Option ℕ
  | metMalformed offset => some offset
  | _ => none

def isTotal : Event → Bool
  | transcoded .. => true
  | _ => false

end Event

namespace Trace

/-- How much of the input is spent: what the calls have read, and a byte for each one copied. -/
def consumed (t : Trace) : ℕ := (t.calls.map Call.read).sum + t.copiedBytes.length

def produced (t : Trace) : ℕ := (t.calls.map Call.written).sum + t.copiedBytes.length

def timesFull (t : Trace) : ℕ := t.calls.countP (·.status? = some .outputFull)

def growths (t : Trace) : List Growth := t.events.filterMap Event.growth?

def capacity (initial : ℕ) (t : Trace) : ℕ := (t.growths.getLast?.map Growth.capacity).getD initial

def offsets (t : Trace) : List ℕ := t.events.filterMap Event.offset?

def totals (t : Trace) : List Event := t.events.filter Event.isTotal

/-- The events above the level of debugging. -/
def alarms (t : Trace) : List Event := t.events.filter (·.shownAt .info)

@[simp] theorem events_nil : Trace.events [] = [] := rfl

@[simp] theorem events_cons_event (e : Event) (t : Trace) :
    Trace.events (.event e :: t) = e :: t.events := rfl

@[simp] theorem events_cons_call (c : Call) (t : Trace) :
    Trace.events (.call c :: t) = t.events := rfl

@[simp] theorem events_cons_converted (output : Bytes) (t : Trace) :
    Trace.events (.converted output :: t) = t.events := rfl

@[simp] theorem events_cons_copied (b : UInt8) (t : Trace) :
    Trace.events (.copied b :: t) = t.events := rfl

@[simp] theorem copiedBytes_cons_converted (output : Bytes) (t : Trace) :
    Trace.copiedBytes (.converted output :: t) = t.copiedBytes := rfl

@[simp] theorem copiedBytes_cons_copied (b : UInt8) (t : Trace) :
    Trace.copiedBytes (.copied b :: t) = b :: t.copiedBytes := rfl

variable (t u : Trace)

@[simp] theorem consumed_append : (t ++ u).consumed = t.consumed + u.consumed := by
  simp only [consumed, calls_append, copiedBytes_append, List.map_append, List.sum_append,
    List.length_append]
  omega

@[simp] theorem produced_append : (t ++ u).produced = t.produced + u.produced := by
  simp only [produced, calls_append, copiedBytes_append, List.map_append, List.sum_append,
    List.length_append]
  omega

@[simp] theorem timesFull_append : (t ++ u).timesFull = t.timesFull + u.timesFull := by
  simp [timesFull]

@[simp] theorem growths_append : (t ++ u).growths = t.growths ++ u.growths := by
  simp [growths]

@[simp] theorem offsets_append : (t ++ u).offsets = t.offsets ++ u.offsets := by
  simp [offsets]

@[simp] theorem totals_append : (t ++ u).totals = t.totals ++ u.totals := by
  simp [totals]

@[simp] theorem alarms_append : (t ++ u).alarms = t.alarms ++ u.alarms := by
  simp [alarms]

@[simp] theorem consumed_event (e : Event) : Trace.consumed [.event e] = 0 := rfl

@[simp] theorem produced_event (e : Event) : Trace.produced [.event e] = 0 := rfl

@[simp] theorem growths_event (e : Event) : Trace.growths [.event e] = e.growth?.toList := by
  cases e <;> rfl

@[simp] theorem offsets_event (e : Event) : Trace.offsets [.event e] = e.offset?.toList := by
  cases e <;> rfl

@[simp] theorem totals_event (e : Event) :
    Trace.totals [.event e] = if e.isTotal then [e] else [] := by
  simp [totals, List.filter_cons]

@[simp] theorem alarms_event (e : Event) :
    Trace.alarms [.event e] = if e.shownAt .info then [e] else [] := by
  simp [alarms, List.filter_cons]

theorem capacity_append {initial : ℕ} {u : Trace} (still : u.growths = []) :
    (t ++ u).capacity initial = t.capacity initial := by
  rw [capacity, growths_append, still, List.append_nil]
  rfl

theorem exists_first_copied {t : Trace} (some : t.copiedBytes ≠ []) :
    ∃ (before : Trace) (byte : UInt8) (after : Trace),
      t = before ++ .copied byte :: after ∧ before.copiedBytes = [] := by
  induction t with
  | nil => exact absurd rfl some
  | cons note t ih =>
    cases note with
    | copied byte => exact ⟨[], byte, t, rfl, rfl⟩
    | _ =>
      rcases ih some with ⟨before, byte, after, rfl, first⟩
      exact ⟨_ :: before, byte, after, rfl, first⟩

end Trace

/-- What a note has to say of an input, where some of a run has been done. -/
def Note.Agrees (input : Bytes) (before : Trace) : Note → Prop
  | .copied byte => input[before.consumed]? = some byte ∧
    (before.copiedBytes = [] → before.offsets = [before.consumed])
  | .event (.grewBuffer written oldCapacity capacity) =>
    written = before.produced ∧ oldCapacity = before.capacity (2 * input.length) ∧
      written ≤ oldCapacity ∧ before.consumed ≤ input.length ∧
      capacity = oldCapacity + 2 * max (input.length - before.consumed) 1
  | _ => True

/-- Every note agrees with all that stands before it. -/
def Trace.IsBalanced (input : Bytes) (t : Trace) : Prop :=
  ∀ before note after, t = before ++ note :: after → note.Agrees input before

namespace Trace.IsBalanced

variable {input : Bytes} {t : Trace}

theorem nil : Trace.IsBalanced input [] := by
  intro before note after whole
  simp at whole

theorem concat (balanced : t.IsBalanced input) (note : Note) (agrees : note.Agrees input t) :
    (t ++ [note]).IsBalanced input := by
  intro before other after whole
  rcases after.eq_nil_or_concat with rfl | ⟨inside, last, rfl⟩
  · rcases List.append_inj' whole rfl with ⟨rfl, same⟩
    cases same
    exact agrees
  · rw [List.concat_eq_append, ← List.cons_append, ← List.append_assoc] at whole
    exact balanced before other inside (List.append_inj' whole rfl).1

end Trace.IsBalanced

end LinkCharset
