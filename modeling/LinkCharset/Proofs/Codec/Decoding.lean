import LinkCharset.Codec.Decoder
import LinkCharset.Proofs.Transcode.Rendering

/-! # What decoding makes of an input

A decoder that always comes to a whole item at the front of what it reads cuts an input into
sequences that it can read and single bytes that it cannot. The pieces do not depend on where its
calls stop: a call that lacks room stops between two of them, and one that meets a malformed
sequence goes back to its first byte. -/
namespace LinkCharset

/-- A piece of an input that is being decoded. -/
inductive Segment where
  /-- A character or a shift sequence, with the text it stands for. -/
  | sequence (bytes : Bytes) (chars : List Char)
  /-- A byte that stands for nothing. -/
  | copied (byte : UInt8)
  deriving DecidableEq, Repr

namespace Segment

/-- The part of the input that the piece is. -/
def bytes : Segment → Bytes
  | sequence bytes _ => bytes
  | copied byte => [byte]

def marked : Segment → Marked
  | sequence _ chars => .converted (Utf8.encode chars)
  | copied byte => .verbatim [byte]

def output : Segment → Bytes
  | sequence _ chars => Utf8.encode chars
  | copied byte => [byte]

def chars : Segment → List Char
  | sequence _ chars => chars
  | copied _ => []

def verbatim : Segment → Bytes
  | sequence .. => []
  | copied byte => [byte]

@[simp] theorem bytes_marked (s : Segment) : s.marked.bytes = s.output := by
  cases s <;> simp [marked, output]

@[simp] theorem copied_marked (s : Segment) : s.marked.copied = s.verbatim := by
  cases s <;> simp [marked, verbatim]

theorem flatMap_output {segments : List Segment} (whole : segments.flatMap verbatim = []) :
    segments.flatMap output = Utf8.encode (segments.flatMap chars) := by
  induction segments with
  | nil => rfl
  | cons s segments ih =>
    rw [List.flatMap_cons, List.append_eq_nil_iff] at whole
    rw [List.flatMap_cons, List.flatMap_cons, Utf8.encode, List.flatMap_append, ih whole.2]
    cases s with
    | sequence bytes chars => rfl
    | copied byte => cases whole.1

end Segment

namespace Decoder

variable (d : Decoder)

/-- The pieces into which a decoder cuts an input: what it reads as a sequence is one also by
itself, and where it reads nothing, one byte is left out. -/
inductive Splits : d.Mode → Bytes → List Segment → Prop where
  | nil (mode : d.Mode) : Splits mode [] []
  | sequence {mode next alone : d.Mode} {b : UInt8} {rest : Bytes} {chars : List Char} {length : ℕ}
      {segments : List Segment} (inside : 1 ≤ length ∧ length ≤ rest.length + 1)
      (reads : d.read mode b rest = .text chars length next)
      (whole : d.read mode b (rest.take (length - 1)) = .text chars length alone)
      (later : Splits next (rest.drop (length - 1)) segments) :
      Splits mode (b :: rest) (.sequence (b :: rest.take (length - 1)) chars :: segments)
  | copied {mode next : d.Mode} {b : UInt8} {rest : Bytes} {bad extra : ℕ}
      {segments : List Segment} (reads : d.read mode b rest = .malformed bad extra next)
      (later : Splits (d.resume bad extra next) rest segments) :
      Splits mode (b :: rest) (.copied b :: segments)

namespace Splits

variable {d} {mode : d.Mode} {input : Bytes} {segments : List Segment}

theorem flatMap_bytes (splits : d.Splits mode input segments) :
    segments.flatMap Segment.bytes = input := by
  induction splits with
  | nil => rfl
  | sequence inside reads whole later ih =>
    rw [List.flatMap_cons, ih, Segment.bytes, List.cons_append, List.take_append_drop]
  | copied reads later ih =>
    rw [List.flatMap_cons, ih]
    rfl

theorem bytes_ne_nil (splits : d.Splits mode input segments) :
    ∀ s ∈ segments, s.bytes ≠ [] := by
  induction splits with
  | nil => simp
  | sequence inside reads whole later ih =>
    exact List.forall_mem_cons.mpr ⟨List.cons_ne_nil _ _, ih⟩
  | copied reads later ih => exact List.forall_mem_cons.mpr ⟨List.cons_ne_nil _ _, ih⟩

end Splits

def segments (mode : d.Mode) : Bytes → List Segment
  | [] => []
  | b :: rest =>
    match d.read mode b rest with
    | .text chars length next =>
      .sequence (b :: rest.take (length - 1)) chars :: segments next (rest.drop (length - 1))
    | .malformed bad extra next => .copied b :: segments (d.resume bad extra next) rest
    | .overdue bad extra _ next => .copied b :: segments (d.resume bad extra next) rest
termination_by input => input.length

/-- What is asked of an item: that it lies within what is given, that a text is a little one, read
also from its own bytes alone and empty only for a shift sequence, and that the mode it leads to
fits what is left. -/
def Within (Fits : d.Mode → Bytes → Prop) (IsShift : Bytes → Prop) (mode : d.Mode) (b : UInt8)
    (rest : Bytes) : Reading d.Mode → Prop
  | .text chars length next =>
    (1 ≤ length ∧ length ≤ rest.length + 1) ∧ (Utf8.encode chars).length ≤ charRoom ∧
      (∃ alone, d.read mode b (rest.take (length - 1)) = .text chars length alone) ∧
      (chars = [] → IsShift (b :: rest.take (length - 1))) ∧ Fits next (rest.drop (length - 1))
  | .malformed bad extra next =>
    (1 ≤ bad ∧ bad + extra ≤ rest.length + 1) ∧ Fits (d.resume bad extra next) rest
  | .overdue .. => False

/-- A decoder whose items are as asked, as long as its mode fits what is left. -/
structure Sound (Fits : d.Mode → Bytes → Prop) (IsShift : Bytes → Prop) : Prop where
  start : ∀ left, Fits d.start left
  wants_lt : ∀ busy b rest, d.wants busy b rest < charRoom
  within : ∀ {mode : d.Mode} {b : UInt8} {rest : Bytes}, Fits mode (b :: rest) →
    d.Within Fits IsShift mode b rest (d.read mode b rest)

def made (mode : d.Mode) (left : Bytes) : Marked := (d.segments mode left).flatMap Segment.marked

namespace Sound

variable {d} {Fits : d.Mode → Bytes → Prop} {IsShift : Bytes → Prop} (sound : d.Sound Fits IsShift)
  {mode : d.Mode} {left : Bytes}
include sound

section Items

variable {next : d.Mode} {b : UInt8} {rest : Bytes} (fits : Fits mode (b :: rest))
include fits

theorem text {chars : List Char} {length : ℕ} (reads : d.read mode b rest = .text chars length next) :
    d.Within Fits IsShift mode b rest (.text chars length next) := reads ▸ sound.within fits

theorem malformed {bad extra : ℕ} (reads : d.read mode b rest = .malformed bad extra next) :
    (1 ≤ bad ∧ bad + extra ≤ rest.length + 1) ∧ Fits (d.resume bad extra next) rest := by
  have within := sound.within fits
  rwa [reads] at within

theorem punctual {bad extra earlier : ℕ} :
    d.read mode b rest ≠ .overdue bad extra earlier next := by
  intro reads
  have within := sound.within fits
  rwa [reads] at within

end Items

theorem splits (fits : Fits mode left) : d.Splits mode left (d.segments mode left) := by
  fun_induction segments d mode left with
  | case1 mode => exact .nil mode
  | case2 mode b rest chars length next reads ih =>
    rcases sound.text fits reads with ⟨inside, -, ⟨alone, whole⟩, -, fits⟩
    exact .sequence inside reads whole (ih fits)
  | case3 mode b rest bad extra next reads ih =>
    rcases sound.malformed fits reads with ⟨-, fits⟩
    exact .copied reads (ih fits)
  | case4 mode b rest bad extra earlier next reads => exact (sound.punctual fits reads).elim

theorem isShift (fits : Fits mode left) {bytes : Bytes}
    (silent : .sequence bytes [] ∈ d.segments mode left) : IsShift bytes := by
  fun_induction segments d mode left with
  | case1 mode => simp at silent
  | case2 mode b rest chars length next reads ih =>
    rcases sound.text fits reads with ⟨-, -, -, shift, fits⟩
    rcases List.mem_cons.mp silent with here | later
    · rcases Segment.sequence.inj here with ⟨rfl, rfl⟩
      exact shift rfl
    · exact ih fits later
  | case3 mode b rest bad extra next reads ih =>
    rcases sound.malformed fits reads with ⟨-, fits⟩
    exact ih fits (by simpa using silent)
  | case4 mode b rest bad extra earlier next reads => exact (sound.punctual fits reads).elim

end Sound

section Made

variable {d} {mode next : d.Mode} {b : UInt8} {rest : Bytes}

@[simp] theorem made_nil : d.made mode [] = [] := by
  rw [made, segments, List.flatMap_nil]

/-- Nothing is to come of an input that has ended, so that it does not matter whether a run stops
there by itself. -/
theorem afterCopy_made (mode : d.Mode) (rest : Bytes) :
    afterCopy (d.made mode) rest = d.made mode rest := by
  by_cases ended : rest = []
  · rw [afterCopy, if_pos ended, ended, made_nil]
  · rw [afterCopy, if_neg ended]

theorem made_of_text {chars : List Char} {length : ℕ}
    (reads : d.read mode b rest = .text chars length next) :
    d.made mode (b :: rest) =
      .converted (Utf8.encode chars) ++ d.made next (rest.drop (length - 1)) := by
  rw [made, segments, reads]
  rfl

theorem made_of_malformed {bad extra : ℕ} (reads : d.read mode b rest = .malformed bad extra next) :
    d.made mode (b :: rest) = (b, true) :: d.made (d.resume bad extra next) rest := by
  rw [made, segments, reads]
  rfl

theorem convert_of_malformed {left : Bytes} {room bad extra : ℕ}
    (stop : (d.decode mode room left).stop = .malformed bad extra) :
    let r := d.decode mode room left
    ∃ status, (status = .invalid ∨ status = .incomplete) ∧
      d.convert mode left room =
        (⟨r.read - (bad + extra), r.output.length, status, r.output⟩, d.resume bad extra r.mode) := by
  by_cases cut : extra = 0 ∧ (left.drop (d.decode mode room left).read).isEmpty
  · exact ⟨.incomplete, .inr rfl, by simp only [convert, stop, if_pos cut]⟩
  · exact ⟨.invalid, .inl rfl, by simp only [convert, stop, if_neg cut]⟩

end Made

/-- What decoding says of the output that was to come of an input: how much of it has been written,
why it stops there, and what is left. -/
def Tells (Fits : d.Mode → Bytes → Prop) (mode : d.Mode) (room : ℕ) (left : Bytes)
    (r : Decoded d.Mode) : Prop :=
  r.read ≤ left.length ∧ r.output.length ≤ room ∧
    match r.stop with
    | .inputEmpty => d.made mode left = .converted r.output
    | .outputFull =>
      Fits r.mode (left.drop r.read) ∧
        d.made mode left = .converted r.output ++ d.made r.mode (left.drop r.read) ∧
        room < r.output.length + charRoom ∧ (0 < r.read ∨ r.read = 0 ∧ r.output = [])
    | .malformed bad extra =>
      bad + extra ≤ r.read ∧
        ∃ (b : UInt8) (rest : Bytes), left.drop (r.read - (bad + extra)) = b :: rest ∧
          Fits (d.resume bad extra r.mode) rest ∧
          d.made mode left =
            .converted r.output ++ (b, true) :: d.made (d.resume bad extra r.mode) rest

namespace Sound

variable {d} {Fits : d.Mode → Bytes → Prop} {IsShift : Bytes → Prop} (sound : d.Sound Fits IsShift)
  {mode : d.Mode} {left : Bytes}

/-- What is said of the input behind a sequence holds of the input from there on. -/
theorem tells_after {mode next : d.Mode} {room : ℕ} {b : UInt8} {rest : Bytes} {chars : List Char}
    {length : ℕ} {r : Decoded d.Mode} (inside : 1 ≤ length ∧ length ≤ rest.length + 1)
    (reads : d.read mode b rest = .text chars length next)
    (fitsRoom : (Utf8.encode chars).length ≤ room)
    (tells : d.Tells Fits next (room - (Utf8.encode chars).length) (rest.drop (length - 1)) r) :
    d.Tells Fits mode room (b :: rest) (r.after length (Utf8.encode chars)) := by
  rcases tells with ⟨read, output, tells⟩
  have behind := drop_add_cons inside.1 b rest
  rw [List.length_drop] at read
  refine ⟨by simp only [Decoded.after, List.length_cons]; omega,
    by simp only [Decoded.after, List.length_append]; omega, ?_⟩
  simp only [Decoded.after]
  rw [made_of_text reads, Marked.converted_append, List.append_assoc]
  cases stop : r.stop with
  | inputEmpty =>
    rw [stop] at tells
    rw [tells]
  | outputFull =>
    rw [stop] at tells
    rcases tells with ⟨fits, made, tight, -⟩
    refine ⟨behind _ ▸ fits, by rw [behind, made], ?_, .inl (by omega)⟩
    rw [List.length_append]
    omega
  | malformed bad extra =>
    rw [stop] at tells
    rcases tells with ⟨counted, byte, others, front, fits, made⟩
    refine ⟨by omega, byte, others, ?_, fits, by rw [made, List.append_assoc]⟩
    rw [Nat.add_sub_assoc counted, behind, front]

include sound

theorem tells_from (busy : Bool) (fits : Fits mode left) (room : ℕ) :
    d.Tells Fits mode room left (d.decodeFrom busy mode room left) := by
  fun_induction decodeFrom d busy mode room left with
  | case1 busy mode room => exact ⟨le_rfl, Nat.zero_le _, made_nil⟩
  | case2 busy mode room b rest tight =>
    have wants := sound.wants_lt busy b rest
    exact ⟨Nat.zero_le _, Nat.zero_le _, fits, rfl, by rw [List.length_nil]; omega, .inr ⟨rfl, rfl⟩⟩
  | case3 busy mode room b rest roomy chars length next reads text fitsRoom ih =>
    rcases sound.text fits reads with ⟨inside, -, -, -, fits⟩
    exact tells_after inside reads fitsRoom (ih fits)
  | case4 busy mode room b rest roomy chars length next reads text exceeds =>
    rcases sound.text fits reads with ⟨inside, small, -⟩
    change ¬ (Utf8.encode chars).length ≤ room at exceeds
    exact ⟨Nat.zero_le _, Nat.zero_le _, fits, rfl, by rw [List.length_nil]; omega, .inr ⟨rfl, rfl⟩⟩
  | case5 busy mode room b rest roomy bad extra next reads =>
    rcases sound.malformed fits reads with ⟨inside, fits⟩
    exact ⟨inside.2, Nat.zero_le _, le_rfl, b, rest, by simp, fits, made_of_malformed reads⟩
  | case6 busy mode room b rest roomy bad extra earlier next reads =>
    exact (sound.punctual fits reads).elim

theorem tells (fits : Fits mode left) (room : ℕ) :
    d.Tells Fits mode room left (d.decode mode room left) := sound.tells_from false fits room

theorem spends (fits : Fits mode left) (room : ℕ) :
    Spends Fits (fun _ _ => 0) mode left room (d.convert mode left room) := by
  rcases sound.tells fits room with ⟨read, output, tells⟩
  cases stop : (d.decode mode room left).stop with
  | inputEmpty =>
    simp only [convert, stop]
    exact ⟨⟨rfl, output⟩, trivial⟩
  | outputFull =>
    rw [stop] at tells
    rcases tells with ⟨fits, -, tight, progress⟩
    simp only [convert, stop]
    refine ⟨⟨rfl, output⟩, read, fits, tight, progress.imp (fun some => ?_) fun none => ?_⟩
    · simp only [List.length_drop]
      omega
    · exact ⟨none.1, none.2, rfl⟩
  | malformed bad extra =>
    rw [stop] at tells
    rcases tells with ⟨-, b, rest, front, fits, -⟩
    rw [← drop_succ_of_drop front] at fits
    rcases convert_of_malformed stop with ⟨status, rfl | rfl, called⟩ <;>
    · rw [called]
      exact ⟨⟨rfl, output⟩, fits⟩

theorem renders (fits : Fits mode left) (room : ℕ) :
    Renders d.made mode left (d.convert mode left room) := by
  rcases sound.tells fits room with ⟨read, -, tells⟩
  cases stop : (d.decode mode room left).stop with
  | inputEmpty =>
    rw [stop] at tells
    simp only [convert, stop]
    exact ⟨read, tells⟩
  | outputFull =>
    rw [stop] at tells
    simp only [convert, stop]
    exact ⟨read, tells.2.1⟩
  | malformed bad extra =>
    rw [stop] at tells
    rcases tells with ⟨-, b, rest, front, -, made⟩
    rw [← afterCopy_made _ rest] at made
    have bounds := (Nat.sub_le _ (bad + extra)).trans read
    rcases convert_of_malformed stop with ⟨status, rfl | rfl, called⟩ <;>
    · rw [called]
      exact ⟨bounds, b, rest, front, made⟩

end Sound

end Decoder

end LinkCharset
