import LinkCharset.Codec.Encoder
import LinkCharset.Proofs.Transcode.Rendering
import LinkCharset.Proofs.Utf8

/-! # What encoding makes of an input

An encoder that never needs two shifts in a row makes the same output of an input wherever its calls
stop: a call that lacks room stops between two characters, or between a shift and the character that
called for it, and one that meets a character it cannot encode stops behind it and goes back to its
start. It goes back to another place if the character is reported as one of another length. -/
namespace LinkCharset.Encoder

variable (e : Encoder)

/-- The shift that a character calls for, and the state in which it is then written. -/
def shifted (state : e.State) (c : Char) : Bytes × e.State := (e.shift? state c).getD ([], state)

def made (state : e.State) : Bytes → Marked
  | [] =>
    match e.closing? state with
    | none => []
    | some (bytes, _) => .converted bytes
  | b :: rest =>
    match Utf8.front b rest with
    | .illFormed _ _ => (b, true) :: if rest = [] then [] else made state rest
    | .char c length =>
      .converted (e.shifted state c).1 ++
        match e.bytes? (e.shifted state c).2 c with
        | none => (b, true) :: if rest = [] then [] else made (e.shifted state c).2 rest
        | some bytes => .converted bytes ++ made (e.shifted state c).2 (rest.drop (length - 1))
termination_by input => input.length

def due (state : e.State) : Bytes → ℕ
  | [] => 0
  | b :: rest =>
    match Utf8.front b rest with
    | .char c _ => if (e.shift? state c).isSome then 1 else 0
    | .illFormed .. => 0

/-- An encoder whose shifts leave nothing to be shifted, and that writes little at a time. -/
structure Lawful : Prop where
  wants_lt : ∀ busy c, e.wants busy c < charRoom
  settles : ∀ {state next : e.State} {c : Char} {shift : Bytes},
    e.shift? state c = some (shift, next) → e.shift? next c = none
  shift_le : ∀ {state next : e.State} {c : Char} {shift : Bytes},
    e.shift? state c = some (shift, next) → shift.length ≤ charRoom
  bytes_le : ∀ {state : e.State} {c : Char} {bytes : Bytes},
    e.bytes? state c = some bytes → bytes.length ≤ charRoom
  closing_le : ∀ {state next : e.State} {bytes : Bytes},
    e.closing? state = some (bytes, next) → bytes.length ≤ charRoom

section Made

variable {e} {state next : e.State} {busy : Bool} {b : UInt8} {rest : Bytes} {c : Char}
  {length room : ℕ} {shift : Bytes}

theorem shiftInto_eq_some (written : e.shiftInto busy state c room = some (shift, next)) :
    e.shifted state c = (shift, next) ∧ shift.length ≤ room := by
  rw [shiftInto] at written
  rw [shifted]
  cases calls : e.shift? state c with
  | none =>
    simp only [calls] at written
    split_ifs at written
    cases written
    exact ⟨rfl, Nat.zero_le _⟩
  | some answer =>
    simp only [calls] at written
    split_ifs at written with fits
    cases written
    exact ⟨rfl, fits⟩

theorem room_lt_of_shiftInto (lawful : e.Lawful) (exceeds : e.shiftInto busy state c room = none) :
    room < charRoom := by
  rw [shiftInto] at exceeds
  cases calls : e.shift? state c with
  | none =>
    simp only [calls] at exceeds
    split_ifs at exceeds with fits
    have wants := lawful.wants_lt busy c
    omega
  | some answer =>
    simp only [calls] at exceeds
    split_ifs at exceeds with fits
    have small := lawful.shift_le calls
    omega

theorem due_le_one (state : e.State) (left : Bytes) : e.due state left ≤ 1 := by
  unfold due
  split
  · exact Nat.zero_le _
  · split
    · split_ifs <;> omega
    · exact Nat.zero_le _

theorem made_of_illFormed {truncated : Bool}
    (stops : Utf8.front b rest = .illFormed length truncated) :
    e.made state (b :: rest) = (b, true) :: afterCopy (e.made state) rest := by
  rw [made, stops]
  rfl

theorem made_of_unmappable (reads : Utf8.front b rest = .char c length)
    (shifts : e.shifted state c = (shift, next)) (lacks : e.bytes? next c = none) :
    e.made state (b :: rest) = .converted shift ++ (b, true) :: afterCopy (e.made next) rest := by
  rw [made, reads]
  simp only [shifts, lacks]
  rfl

theorem made_of_char (reads : Utf8.front b rest = .char c length)
    (shifts : e.shifted state c = (shift, next)) {bytes : Bytes} (has : e.bytes? next c = some bytes) :
    e.made state (b :: rest) =
      .converted (shift ++ bytes) ++ e.made next (rest.drop (length - 1)) := by
  rw [made, reads]
  simp only [shifts, has, Marked.converted_append, List.append_assoc]

theorem made_of_shift (lawful : e.Lawful) (reads : Utf8.front b rest = .char c length)
    (calls : e.shift? state c = some (shift, next)) :
    e.made state (b :: rest) = .converted shift ++ e.made next (b :: rest) := by
  have shifts : e.shifted state c = (shift, next) := by rw [shifted, calls, Option.getD_some]
  have settled : e.shifted next c = ([], next) := by
    rw [shifted, lawful.settles calls, Option.getD_none]
  rw [made, made, reads]
  simp only [shifts, settled]
  rfl

end Made

/-- What encoding says of the output that was to come of an input: how much of it has been written,
why it stops there, and what is left. -/
def Tells (state : e.State) (room : ℕ) (left : Bytes) (r : Encoded e.State) : Prop :=
  r.read ≤ left.length ∧ r.output.length ≤ room ∧
    match r.stop with
    | .inputEmpty => e.made state left = .converted r.output
    | .outputFull =>
      e.made state left = .converted r.output ++ e.made r.state (left.drop r.read) ∧
        room < r.output.length + charRoom ∧
        (2 * (left.drop r.read).length + e.due r.state (left.drop r.read) <
            2 * left.length + e.due state left ∨
          r.read = 0 ∧ r.output = [] ∧ r.state = state)
    | .unmappable reported =>
      ∃ (c : Char) (b : UInt8) (rest : Bytes), reported = e.reported c ∧
        (Utf8.encodeChar c).length ≤ r.read ∧
        left.drop (r.read - (Utf8.encodeChar c).length) = b :: rest ∧
        Utf8.encodeChar c <+: b :: rest ∧
        e.made state left = .converted r.output ++ (b, true) :: afterCopy (e.made r.state) rest
    | .illFormed _ =>
      ∃ (b : UInt8) (rest : Bytes), left.drop r.read = b :: rest ∧
        e.made state left = .converted r.output ++ (b, true) :: afterCopy (e.made r.state) rest

namespace Lawful

variable {e} (lawful : e.Lawful) {state next : e.State} {left : Bytes}

/-- What is said of the input behind a character holds of the input from there on. -/
theorem tells_after {room : ℕ} {b : UInt8} {rest : Bytes} {c : Char} {length : ℕ}
    {shift bytes : Bytes} {r : Encoded e.State} (reads : Utf8.front b rest = .char c length)
    (shifts : e.shifted state c = (shift, next)) (has : e.bytes? next c = some bytes)
    (fitsRoom : (shift ++ bytes).length ≤ room)
    (tells : e.Tells next (room - (shift ++ bytes).length) (rest.drop (length - 1)) r) :
    e.Tells state room (b :: rest) (r.after length (shift ++ bytes)) := by
  rcases tells with ⟨read, output, tells⟩
  rcases Utf8.front_char reads with ⟨inside, -⟩
  have behind := drop_add_cons inside.1 b rest
  rw [List.length_drop] at read
  refine ⟨by simp only [Encoded.after, List.length_cons]; omega,
    by simp only [Encoded.after, List.length_append] at *; omega, ?_⟩
  simp only [Encoded.after]
  rw [made_of_char reads shifts has, Marked.converted_append (shift ++ bytes), List.append_assoc]
  cases stop : r.stop with
  | inputEmpty =>
    rw [stop] at tells
    rw [tells]
  | outputFull =>
    rw [stop] at tells
    rcases tells with ⟨made, tight, progress⟩
    refine ⟨by rw [behind, made], ?_, .inl ?_⟩
    · rw [List.length_append]
      omega
    · rw [behind, List.length_cons]
      simp only [List.length_drop] at progress ⊢
      have due := due_le_one (e := e) r.state ((rest.drop (length - 1)).drop r.read)
      have due' := due_le_one (e := e) next (rest.drop (length - 1))
      omega
  | unmappable reported =>
    rw [stop] at tells
    rcases tells with ⟨d, byte, others, same, counted, front, starts, made⟩
    refine ⟨d, byte, others, same, by omega, ?_, starts, by rw [made, List.append_assoc]⟩
    rw [Nat.add_sub_assoc counted, behind, front]
  | illFormed truncated =>
    rw [stop] at tells
    rcases tells with ⟨byte, others, front, made⟩
    exact ⟨byte, others, by rw [behind, front], by rw [made, List.append_assoc]⟩

include lawful

/-- A character that lacks room behind its shift is left, and so is one without a shift. -/
theorem tells_full {room : ℕ} {b : UInt8} {rest : Bytes} {c : Char} {length : ℕ} {shift : Bytes}
    (reads : Utf8.front b rest = .char c length) (shifts : e.shifted state c = (shift, next))
    (fitsRoom : shift.length ≤ room) (tight : room < shift.length + charRoom) :
    e.Tells state room (b :: rest) ⟨0, shift, .outputFull, next⟩ := by
  refine ⟨Nat.zero_le _, fitsRoom, ?_⟩
  cases calls : e.shift? state c with
  | none =>
    simp only [shifted, calls, Option.getD_none, Prod.mk.injEq] at shifts
    rcases shifts with ⟨rfl, rfl⟩
    exact ⟨rfl, tight, .inr ⟨rfl, rfl, rfl⟩⟩
  | some answer =>
    obtain rfl : answer = (shift, next) := by simpa [shifted, calls] using shifts
    refine ⟨made_of_shift lawful reads calls, tight, .inl ?_⟩
    have before : e.due state (b :: rest) = 1 := by simp [due, reads, calls]
    have after : e.due next (b :: rest) = 0 := by simp [due, reads, lawful.settles calls]
    change 2 * (b :: rest).length + e.due next (b :: rest) < _
    omega

theorem tells_close (state : e.State) (room : ℕ) : e.Tells state room [] (e.close state room) := by
  rw [close]
  cases closes : e.closing? state with
  | none =>
    refine ⟨le_rfl, Nat.zero_le _, ?_⟩
    simp only [made, closes]
    rfl
  | some answer =>
    have small := lawful.closing_le closes
    by_cases fits : answer.1.length ≤ room
    · simp only [if_pos fits]
      refine ⟨le_rfl, fits, ?_⟩
      simp only [made, closes]
    · simp only [if_neg fits]
      exact ⟨le_rfl, Nat.zero_le _, rfl, by rw [List.length_nil]; omega, .inr ⟨rfl, rfl, rfl⟩⟩

theorem tells_from (busy : Bool) (state : e.State) (left : Bytes) (room : ℕ) :
    e.Tells state room left (e.encodeFrom busy state room left) := by
  fun_induction encodeFrom e busy state room left with
  | case1 busy state room => exact lawful.tells_close state room
  | case2 busy state room b rest length truncated stops =>
    exact ⟨Nat.zero_le _, Nat.zero_le _, b, rest, rfl, made_of_illFormed stops⟩
  | case3 busy state room b rest c length reads exceeds =>
    have tight := room_lt_of_shiftInto lawful exceeds
    exact ⟨Nat.zero_le _, Nat.zero_le _, rfl, by rwa [List.length_nil, Nat.zero_add],
      .inr ⟨rfl, rfl, rfl⟩⟩
  | case4 busy state room b rest c length reads shift shifted written left lacks waits =>
    rcases shiftInto_eq_some written with ⟨shifts, fitsRoom⟩
    have wants := lawful.wants_lt busy c
    have less : room - shift.length < e.wants busy c := by simpa using (Bool.and_eq_true_iff.mp waits).2
    exact lawful.tells_full reads shifts fitsRoom (by omega)
  | case5 busy state room b rest c length reads shift shifted written left lacks =>
    rcases shiftInto_eq_some written with ⟨shifts, fitsRoom⟩
    rcases Utf8.front_char reads with ⟨inside, -⟩
    have counted := Utf8.length_encodeChar_of_front reads
    refine ⟨inside.2, fitsRoom, c, b, rest, rfl, counted.le, ?_,
      ⟨_, (Utf8.eq_append_of_front reads).symm⟩, made_of_unmappable reads shifts lacks⟩
    rw [counted, Nat.sub_self, List.drop_zero]
  | case6 busy state room b rest c length reads shift shifted written left bytes has fitsRoom ih =>
    rcases shiftInto_eq_some written with ⟨shifts, before⟩
    have wide : (shift ++ bytes).length ≤ room := by
      rw [List.length_append]
      omega
    refine tells_after reads shifts has wide ?_
    rwa [List.length_append, Nat.sub_add_eq]
  | case7 busy state room b rest c length reads shift shifted written left bytes has exceeds =>
    rcases shiftInto_eq_some written with ⟨shifts, fitsRoom⟩
    have small := lawful.bytes_le has
    have wants := lawful.wants_lt busy c
    exact lawful.tells_full reads shifts fitsRoom (by omega)

theorem tells (state : e.State) (left : Bytes) (room : ℕ) :
    e.Tells state room left (e.encode state room left) := lawful.tells_from false state left room

/-- No call asks more of the input than is left, whatever a report says of a character. -/
theorem spends (state : e.State) (left : Bytes) (room : ℕ) :
    Spends (fun _ _ => True) e.due state left room (e.convert state left room) := by
  rcases lawful.tells state left room with ⟨read, output, tells⟩
  rw [convert]
  refine ⟨⟨rfl, output⟩, ?_⟩
  cases stop : (e.encode state room left).stop with
  | inputEmpty => trivial
  | outputFull =>
    rw [stop] at tells
    rcases tells with ⟨-, tight, progress⟩
    refine ⟨read, trivial, tight, progress.imp_right fun idle => ?_⟩
    exact ⟨idle.1, idle.2.1, congrArg (e.due · left) idle.2.2⟩
  | unmappable reported => trivial
  | illFormed truncated => cases truncated <;> trivial

end Lawful

/-- Whether every character of an input would be reported as what it is. -/
def IsFrank (left : Bytes) : Prop := ∀ c, Utf8.encodeChar c <:+: left → e.refuses c = false

variable {e}

theorem IsFrank.drop {left : Bytes} (frank : e.IsFrank left) (n : ℕ) : e.IsFrank (left.drop n) :=
  fun c inside => frank c (inside.trans (List.drop_suffix n left).isInfix)

theorem Lawful.renders (lawful : e.Lawful) (state : e.State) {left : Bytes} (frank : e.IsFrank left)
    (room : ℕ) : Renders e.made state left (e.convert state left room) := by
  rcases lawful.tells state left room with ⟨read, -, tells⟩
  rw [convert]
  cases stop : (e.encode state room left).stop with
  | inputEmpty =>
    rw [stop] at tells
    exact ⟨read, tells⟩
  | outputFull =>
    rw [stop] at tells
    exact ⟨read, tells.1⟩
  | unmappable reported =>
    rw [stop] at tells
    rcases tells with ⟨c, b, rest, rfl, counted, front, starts, made⟩
    have within : Utf8.encodeChar c <:+: left := by
      rw [← front] at starts
      exact starts.isInfix.trans (List.drop_suffix _ _).isInfix
    have back : wordSub (e.encode state room left).read (Utf8.encodeChar (e.reported c)).length =
        (e.encode state room left).read - (Utf8.encodeChar c).length := by
      rw [reported, frank c within, if_neg Bool.false_ne_true, wordSub, if_pos counted]
    simp only [back]
    exact ⟨(Nat.sub_le _ _).trans read, b, rest, front, made⟩
  | illFormed truncated =>
    rw [stop] at tells
    cases truncated <;> exact ⟨read, tells⟩

/-- How far a call says it has read: no farther than its input goes, unless it goes back from behind
a character that it reports as another one. -/
theorem Lawful.read_convert (lawful : e.Lawful) (state : e.State) (left : Bytes) (room : ℕ) :
    (e.convert state left room).1.read ≤ left.length ∨
      ∃ (c : Char) (n : ℕ), e.refuses c = true ∧ Utf8.encodeChar c <+: left.drop n ∧
        (e.convert state left room).1.status = .invalid ∧
        (e.convert state left room).1.read =
          wordSub (n + (Utf8.encodeChar c).length) (Utf8.encodeChar '\uFFFD').length := by
  rcases lawful.tells state left room with ⟨read, -, tells⟩
  rw [convert]
  cases stop : (e.encode state room left).stop with
  | inputEmpty => exact .inl read
  | outputFull => exact .inl read
  | illFormed truncated => exact .inl read
  | unmappable reported =>
    rw [stop] at tells
    rcases tells with ⟨c, b, rest, rfl, counted, front, starts, -⟩
    cases refuses : e.refuses c with
    | false =>
      left
      simp only [Encoder.reported, refuses, Bool.false_eq_true, if_false, wordSub, if_pos counted]
      exact (Nat.sub_le _ _).trans read
    | true =>
      refine .inr ⟨c, (e.encode state room left).read - (Utf8.encodeChar c).length, refuses,
        by rwa [front], rfl, ?_⟩
      simp only [Encoder.reported, refuses, if_true]
      rw [Nat.sub_add_cancel counted]

end LinkCharset.Encoder
