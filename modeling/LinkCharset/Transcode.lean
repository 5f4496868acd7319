import LinkCharset.Trace
import LinkCharset.Transcode.Buffer

/-! # Transcoding

Drives a codec over an input whose converted size is not known. A full buffer grows, a byte that
the codec cannot read is copied as it is, and any other failure ends the run without output. -/
namespace LinkCharset

/-- Where a run stands: the input left, the output so far and the counts it reports at the end. -/
structure Cursor (σ : Type) where
  remaining : Bytes
  buffer : Buffer
  invalid : Nat
  tooShort : Nat
  codec : σ

/-- A finished run. -/
structure Run (σ : Type) where
  trace : Trace
  result : Except TranscodeError Transcoded
  codec : σ

namespace Transcode

variable {σ : Type}

def start (codec : σ) (input : Bytes) : Cursor σ :=
  ⟨input, .forInput input.length, 0, 0, codec⟩

/-- What one turn of a run leads to. -/
inductive Turn (σ : Type) where
  | done (trace : Trace) (result : Except TranscodeError Transcoded) (codec : σ)
  | more (trace : Trace) (next : Cursor σ)

/-- The buffer after growing for some input left, and the event that says so. -/
def grow (b : Buffer) (inputLeft : Nat) : Event × Buffer :=
  (.grewBuffer b.written b.capacity (b.grownCapacity inputLeft), b.grow inputLeft)

/-- Appends the first byte of the input left as it is, which makes room first if there is none. -/
def copy (b : Buffer) (byte : UInt8) (rest : Bytes) : Trace × Buffer :=
  if b.isFull then
    let (event, grown) := grow b (rest.length + 1)
    ([.event event, .copied byte], grown.put byte)
  else ([.copied byte], b.put byte)

/-- Only the first byte of a run that is copied as it is makes an event. -/
def notice (total : Nat) (s : Cursor σ) : Trace :=
  if s.invalid = 0 then [.event (.metMalformed (total - s.remaining.length))] else []

/-- Copies the byte at which the codec stopped, if there is one, and goes on behind it. -/
def skip (total : Nat) (s : Cursor σ) : Turn σ :=
  match s.remaining with
  | [] => .done [] (.ok s.buffer.finish) s.codec
  | byte :: rest =>
    let (copying, buffer) := copy s.buffer byte rest
    let next := { s with remaining := rest, buffer, invalid := s.invalid + 1 }
    if rest.isEmpty then .done (notice total s ++ copying) (.ok buffer.finish) s.codec
    else .more (notice total s ++ copying) next

/-- Carries out what a conversion report asks for; the cursor stands behind what it consumed. -/
def react (total : Nat) (status : Status) (s : Cursor σ) : Turn σ :=
  match status with
  | .complete =>
    .done [.event (.transcoded total s.buffer.written s.invalid s.tooShort)]
      (.ok s.buffer.finish) s.codec
  | .outputFull =>
    let (event, grown) := grow s.buffer s.remaining.length
    .more [.event event] { s with buffer := grown, tooShort := s.tooShort + 1 }
  | .failed code => .done [.event (.codecFailed code)] (.error (.codec code)) s.codec
  | .invalid | .incomplete => skip total s

/-- One conversion call: its report, what it did, and the cursor after it. -/
def call (c : Codec σ) (s : Cursor σ) : Conversion × Trace × Cursor σ :=
  let (report, codec) := c.convert s.codec s.remaining s.buffer.room
  let filled := s.buffer.fill report.output
  (report,
    [.call (.convert s.remaining s.buffer.room report),
      .converted (filled.front report.written)],
    { s with
      remaining := s.remaining.drop report.read
      buffer := filled.advance report.written
      codec })

/-- A turn that starts with something already done. -/
def Turn.after (before : Trace) : Turn σ → Turn σ
  | .done trace result codec => .done (before ++ trace) result codec
  | .more trace next => .more (before ++ trace) next

def turn (c : Codec σ) (total : Nat) (s : Cursor σ) : Turn σ :=
  let (report, calling, next) := call c s
  (react total report.status next).after calling

/-- Runs for at most `limit` calls; nothing comes of a run that needs more. -/
def runFrom (c : Codec σ) (total : Nat) : Nat → Cursor σ → Option (Run σ)
  | 0, _ => none
  | limit + 1, s =>
    match turn c total s with
    | .done trace result codec => some ⟨trace, result, codec⟩
    | .more trace next =>
      (runFrom c total limit next).map fun run => { run with trace := trace ++ run.trace }

/-- What holds of a run that ends with its first turn, and of a run if it holds of what follows its
first turn, holds of every run. -/
theorem runFrom_induction {c : Codec σ} {total : Nat} {motive : Cursor σ → Run σ → Prop}
    (done : ∀ {s : Cursor σ} {trace result codec}, turn c total s = .done trace result codec →
      motive s ⟨trace, result, codec⟩)
    (more : ∀ {s : Cursor σ} {trace next run}, turn c total s = .more trace next →
      motive next run → motive s { run with trace := trace ++ run.trace })
    {limit : Nat} {s : Cursor σ} {run : Run σ} (stops : runFrom c total limit s = some run) :
    motive s run := by
  induction limit generalizing s run with
  | zero => cases stops
  | succ limit ih =>
    rw [runFrom] at stops
    cases turned : turn c total s with
    | done trace result codec =>
      rw [turned] at stops
      cases stops
      exact done turned
    | more trace next =>
      simp only [turned, Option.map_eq_some_iff] at stops
      rcases stops with ⟨later, stops, rfl⟩
      exact more turned (ih stops)

/-- A run over an input within a number of calls. An empty input never reaches the codec. -/
def run? (c : Codec σ) (limit : Nat) (codec : σ) (input : Bytes) : Option (Run σ) :=
  if input.isEmpty then some ⟨[], .ok (Buffer.forInput 0).finish, codec⟩
  else runFrom c input.length limit (start codec input)

end Transcode

/-- Converts an input through a codec within the codec's own call limit. -/
def transcode {σ : Type} (c : Codec σ) (codec : σ) (input : Bytes) : Run σ :=
  (Transcode.run? c (c.callLimit codec input.length) codec input).getD
    ⟨[], .error .stalled, codec⟩

/-- A conversion that makes no run leaves the codec as it is. -/
theorem transcode_cases {σ : Type} (c : Codec σ) (codec : σ) (input : Bytes) :
    (∃ result, transcode c codec input = ⟨[], result, codec⟩) ∨
      ∃ limit, Transcode.runFrom c input.length limit (Transcode.start codec input) =
        some (transcode c codec input) := by
  unfold transcode Transcode.run?
  split
  · exact .inl ⟨_, rfl⟩
  · cases ends : Transcode.runFrom c input.length (c.callLimit codec input.length)
      (Transcode.start codec input) with
    | none => exact .inl ⟨_, rfl⟩
    | some run => exact .inr ⟨_, ends⟩

end LinkCharset
