import LinkCharset.Proofs.Transcode.Pacing

/-! # Runs that come to one output

A codec renders its input if the output still to come is settled by its state and by what is left of
the input, however much room its calls are offered. Runs of such a codec end, as soon as room is
made every now and then, and all of them come to the same output: through a block that grows,
through one block that is large enough, and through slices of any sizes. -/
namespace LinkCharset

/-- Output, with a mark on each byte that is copied from the input as it is. -/
abbrev Marked := List (UInt8 × Bool)

namespace Marked

def converted (bytes : Bytes) : Marked := bytes.map (·, false)

def verbatim (bytes : Bytes) : Marked := bytes.map (·, true)

def bytes (output : Marked) : Bytes := output.map Prod.fst

def copied (output : Marked) : Bytes := (output.filter Prod.snd).map Prod.fst

@[simp] theorem bytes_append (a b : Marked) : bytes (a ++ b) = a.bytes ++ b.bytes := by simp [bytes]

@[simp] theorem copied_append (a b : Marked) : copied (a ++ b) = a.copied ++ b.copied := by
  simp [copied]

@[simp] theorem bytes_nil : bytes [] = [] := rfl

@[simp] theorem copied_nil : copied [] = [] := rfl

@[simp] theorem bytes_cons (byte : UInt8) (mark : Bool) (output : Marked) :
    bytes ((byte, mark) :: output) = byte :: output.bytes := rfl

@[simp] theorem copied_cons (byte : UInt8) (output : Marked) :
    copied ((byte, true) :: output) = byte :: output.copied := rfl

@[simp] theorem bytes_converted (bytes : Bytes) : (converted bytes).bytes = bytes := by
  simp [converted, Marked.bytes, Function.comp_def]

@[simp] theorem copied_converted (bytes : Bytes) : (converted bytes).copied = [] := by
  simp [converted, copied]

@[simp] theorem bytes_verbatim (bytes : Bytes) : (verbatim bytes).bytes = bytes := by
  simp [verbatim, Marked.bytes, Function.comp_def]

@[simp] theorem copied_verbatim (bytes : Bytes) : (verbatim bytes).copied = bytes := by
  simp [verbatim, copied, List.filter_map, Function.comp_def]

theorem converted_append (a b : Bytes) : converted (a ++ b) = converted a ++ converted b := by
  simp [converted]

theorem bytes_flatMap {α : Type} (f : α → Marked) (xs : List α) :
    bytes (xs.flatMap f) = xs.flatMap fun x => (f x).bytes := by
  simp [bytes, List.map_flatMap]

theorem copied_flatMap {α : Type} (f : α → Marked) (xs : List α) :
    copied (xs.flatMap f) = xs.flatMap fun x => (f x).copied := by
  simp [copied, List.filter_flatMap, List.map_flatMap]

end Marked

namespace Move

def marked (m : Move) : Marked :=
  .converted (m.slice.take m.report.written) ++ .verbatim m.copied

@[simp] theorem bytes_marked (m : Move) : m.marked.bytes = m.appended := by
  simp [marked, appended]

@[simp] theorem copied_marked (m : Move) : m.marked.copied = m.copied := by
  simp [marked]

end Move

/-- What is still to come of an input. A run that has copied the last byte of its input is over. -/
def afterCopy (made : Bytes → Marked) (rest : Bytes) : Marked := if rest = [] then [] else made rest

/-- The recovery from bytes that cannot be read, in a single block that must not run full. -/
def inOneBlock {σ : Type} (c : Codec σ) (codec : σ) (left block : Bytes) : Option Bytes :=
  let m : Move := ⟨left, block, (c.convert codec left block.length).1⟩
  if m.report.status = .outputFull ∨ m.failure?.isSome ∨ block.length < m.appended.length then none
  else if m.isLast then some m.appended
  else
    (inOneBlock c (c.convert codec left block.length).2 m.rest (m.slice.drop m.appended.length)).map
      (m.appended ++ ·)
termination_by left.length
decreasing_by
  rename_i roomy goesOn
  exact Move.length_rest_lt (by simpa using goesOn) fun full => roomy (.inl full)

/-- A call that does the first part of what is to come: it stops where the input ends, where the
next piece lacks room, or before a byte to be copied. `made` says which output is to come from a
state before what is left of an input. -/
def Renders {σ : Type} (made : σ → Bytes → Marked) (codec : σ) (left : Bytes)
    (called : Conversion × σ) : Prop :=
  let (r, next) := called
  r.read ≤ left.length ∧
    match r.status with
    | .complete => made codec left = .converted r.output
    | .outputFull => made codec left = .converted r.output ++ made next (left.drop r.read)
    | .invalid | .incomplete =>
      ∃ byte rest, left.drop r.read = byte :: rest ∧
        made codec left = .converted r.output ++ (byte, true) :: afterCopy (made next) rest
    | .failed _ => False

structure Rendering {σ : Type} (c : Codec σ) extends Pacing c where
  made : σ → Bytes → Marked
  renders : ∀ codec left room, Fits codec left → Renders made codec left (c.convert codec left room)

namespace Rendering

variable {σ : Type} {c : Codec σ} (R : Rendering c) {codec : σ} {left : Bytes}

theorem made_eq_of_stopped {m : Move} (stopped : m.IsStopped) (given : m.given = left)
    (slice : m.slice.take m.report.written = m.report.output) {next : σ} {byte : UInt8} {rest : Bytes}
    (front : left.drop m.report.read = byte :: rest)
    (made : R.made codec left =
      .converted m.report.output ++ (byte, true) :: afterCopy (R.made next) rest) :
    R.made codec left = m.marked ++ if m.isLast then [] else R.made next m.rest := by
  have here : m.left = byte :: rest := by rw [Move.left, given, front]
  have later : m.rest = rest := by rw [stopped.rest_eq, here, List.drop_one, List.tail_cons]
  have marked : m.marked = .converted m.report.output ++ [(byte, true)] := by
    rw [Move.marked, slice, stopped.copied_eq, here]
    rfl
  rw [stopped.isLast_eq, later, marked, made, afterCopy]
  simp

/-- What a move adds to the output is all that was to come, or the first part of it. -/
theorem made_eq (fits : R.Fits codec left) {m : Move} (move : c.IsMove codec left m) :
    R.made codec left = m.marked ++ if m.isLast then []
      else R.made (c.convert codec left m.offered.length).2 m.rest := by
  have slice := R.slice_take fits move
  rcases R.renders codec left m.offered.length fits with ⟨-, renders⟩
  rcases move with ⟨given, report⟩
  simp only [← report] at renders
  cases status : m.report.status with
  | complete =>
    rw [status] at renders
    simp [Move.isLast, status, renders, Move.marked, Move.copied, slice, Marked.verbatim]
  | outputFull =>
    rw [status] at renders
    have rest : m.rest = left.drop m.report.read := by
      simp [Move.rest, Move.taken, Move.copied, status, given]
    rw [renders, rest]
    simp [Move.isLast, Move.marked, Move.copied, status, slice, Marked.verbatim]
  | failed code =>
    rw [status] at renders
    exact renders.elim
  | invalid =>
    rw [status] at renders
    rcases renders with ⟨byte, rest, front, made⟩
    exact R.made_eq_of_stopped (.inl status) given slice front made
  | incomplete =>
    rw [status] at renders
    rcases renders with ⟨byte, rest, front, made⟩
    exact R.made_eq_of_stopped (.inr status) given slice front made

/-- All moves by which an input can be converted make the same output between them. -/
theorem marked_eq (fits : R.Fits codec left) {moves : List Move}
    (makes : c.Makes codec left moves) :
    (∀ m ∈ moves, m.failure? = none) ∧ moves.flatMap Move.marked = R.made codec left := by
  induction moves generalizing codec left with
  | nil => exact makes.elim
  | cons m moves ih =>
    rcases makes with ⟨given, report, makes⟩
    have unfailed := R.failure?_eq fits ⟨given, report⟩
    have made := R.made_eq fits ⟨given, report⟩
    split at makes
    · rename_i last
      rw [if_pos last] at made
      simp [makes, unfailed, made]
    · rename_i goesOn
      rw [if_neg goesOn] at made
      rcases R.advances fits ⟨given, report⟩ (by simpa using goesOn) with ⟨fits, -⟩
      rcases ih fits makes with ⟨later, marked⟩
      exact ⟨List.forall_mem_cons.mpr ⟨unfailed, later⟩, by rw [List.flatMap_cons, marked, made]⟩

theorem outcome_eq (fits : R.Fits codec left) {moves : List Move}
    (makes : c.Makes codec left moves) (produced : Bytes) :
    Move.outcome produced moves = .ok ⟨produced ++ (R.made codec left).bytes ++ [0]⟩ := by
  rcases R.marked_eq fits makes with ⟨unfailed, marked⟩
  rw [Move.outcome_of_unfailed unfailed, ← marked, Marked.bytes_flatMap]
  simp only [Move.bytes_marked]

theorem copied_eq (fits : R.Fits codec left) {moves : List Move}
    (makes : c.Makes codec left moves) :
    moves.flatMap Move.copied = (R.made codec left).copied := by
  rcases R.marked_eq fits makes with ⟨-, marked⟩
  rw [← marked, Marked.copied_flatMap]
  simp only [Move.copied_marked]

/-- What comes of an input that is converted within the codec's own limit, and which of its bytes
are copied. -/
theorem transcode_eq {input : Bytes} (fits : R.Fits codec input)
    (nothing : input = [] → R.made codec input = [])
    (limit : 12 * input.length + 12 ≤ c.callLimit codec input.length) :
    (transcode c codec input).result = .ok ⟨(R.made codec input).bytes ++ [0]⟩ ∧
      (transcode c codec input).trace.copiedBytes = (R.made codec input).copied := by
  by_cases empty : input = []
  · rw [nothing empty]
    simp [transcode, Transcode.run?, empty, Buffer.finish, Buffer.forInput, Buffer.produced]
  · rcases R.transcode_ends fits empty limit with ⟨-, stops, -, -, steady⟩
    rcases Transcode.runFrom_makes stops fun call made => (steady call made).1.fitsRoom with
      ⟨moves, -, copied, makes, result⟩
    rw [result, copied]
    exact ⟨R.outcome_eq fits makes [], R.copied_eq fits makes⟩

/-- What a single block comes to is the same output, which then fits into it. -/
theorem eq_of_inOneBlock {codec : σ} {left block output : Bytes} (fits : R.Fits codec left)
    (ends : inOneBlock c codec left block = some output) :
    output = (R.made codec left).bytes ∧ output.length ≤ block.length := by
  let m : Move := ⟨left, block, (c.convert codec left block.length).1⟩
  have move : c.IsMove codec left m := ⟨rfl, rfl⟩
  have made := R.made_eq fits move
  rw [inOneBlock] at ends
  by_cases stuck : m.report.status = .outputFull ∨ m.failure?.isSome ∨
      block.length < m.appended.length
  · rw [if_pos stuck] at ends
    cases ends
  · rw [if_neg stuck] at ends
    simp only [not_or, Nat.not_lt] at stuck
    by_cases last : m.isLast
    · rw [if_pos last] at ends made
      cases ends
      rw [made, List.append_nil, Move.bytes_marked]
      exact ⟨rfl, stuck.2.2⟩
    · rw [if_neg last] at ends made
      rcases Option.map_eq_some_iff.mp ends with ⟨later, endsLater, rfl⟩
      have shorter := Move.length_rest_lt (by simpa using last) stuck.1
      rcases R.advances fits move (by simpa using last) with ⟨fits, -⟩
      rcases eq_of_inOneBlock fits endsLater with ⟨rfl, within⟩
      rw [made, Marked.bytes_append, Move.bytes_marked]
      have room := stuck.2.2
      have behind : (m.slice.drop m.appended.length).length = block.length - m.appended.length := by
        simp [Move.slice, m]
      rw [behind] at within
      refine ⟨rfl, ?_⟩
      rw [List.length_append]
      change m.appended.length + _ ≤ _
      omega
termination_by left.length

/-- A single block never runs full if it has room for the output and one character more. -/
theorem inOneBlock_eq {codec : σ} {left block : Bytes} (fits : R.Fits codec left)
    (roomy : (R.made codec left).bytes.length + charRoom ≤ block.length) :
    inOneBlock c codec left block = some (R.made codec left).bytes := by
  let m : Move := ⟨left, block, (c.convert codec left block.length).1⟩
  have move : c.IsMove codec left m := ⟨rfl, rfl⟩
  have made := R.made_eq fits move
  have begun : m.appended.length ≤ (R.made codec left).bytes.length := by
    rw [made, Marked.bytes_append, Move.bytes_marked, List.length_append]
    omega
  have written := R.written_le_appended fits move
  have unstuck : ¬ (m.report.status = .outputFull ∨ m.failure?.isSome ∨
      block.length < m.appended.length) := by
    rintro (full | failed | beyond)
    · have tight := R.tight_of_full fits move full
      change block.length < _ at tight
      omega
    · simp [R.failure?_eq fits move] at failed
    · omega
  rw [inOneBlock, if_neg unstuck]
  simp only [not_or] at unstuck
  by_cases last : m.isLast
  · rw [if_pos last] at made
    rw [if_pos last, made, List.append_nil, Move.bytes_marked]
  · rw [if_neg last] at made
    have shorter := Move.length_rest_lt (by simpa using last) unstuck.1
    rcases R.advances fits move (by simpa using last) with ⟨fits, -⟩
    rw [made, Marked.bytes_append, Move.bytes_marked, List.length_append] at roomy
    rw [if_neg last, inOneBlock_eq fits, made, Marked.bytes_append, Move.bytes_marked,
      Option.map_some]
    simp only [Move.slice, List.length_drop, length_overlay]
    change _ ≤ block.length - m.appended.length
    omega
termination_by left.length

end Rendering

end LinkCharset
