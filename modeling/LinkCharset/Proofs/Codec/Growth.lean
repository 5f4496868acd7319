import LinkCharset.Proofs.Codec.Alike
import LinkCharset.Proofs.Codec.Splitting
import LinkCharset.Proofs.Encoding.Sparing
import LinkCharset.Proofs.Transcode.Growth

/-! # How often the block grows for the codecs of the web

Decoding is sparing, so that a conversion to UTF-8 grows its block a logarithmic number of times.
The bytes that it moves go with the number of growths, and are not linear in its input: while an
input of euro signs is decoded, what is left of it falls to a third with each growth, so that there
are many, and each moves two thirds of the output or more. -/
namespace LinkCharset

namespace Decoder

variable {d : Decoder}

/-- What is written before a call stops is little, compared with what it reads up to there. -/
def Spares (room : ℕ) (left : Bytes) (r : Decoded d.Mode) : Prop :=
  match r.stop with
  | .inputEmpty => r.output.length ≤ 3 * r.read
  | .outputFull =>
    r.output.length ≤ 3 * r.read ∧ r.read < left.length ∧ room < r.output.length + 4
  | .malformed bad extra => bad + extra ≤ r.read ∧ r.output.length ≤ 3 * (r.read - (bad + extra))

namespace Sound

variable {Fits : d.Mode → Bytes → Prop} {IsShift : Bytes → Prop} (sound : d.Sound Fits IsShift)
  (sparing : d.IsSparing) {mode : d.Mode} {left : Bytes} (fits : Fits mode left) (room : ℕ)
include sound sparing fits

theorem spares_from (busy : Bool) : d.Spares room left (d.decodeFrom busy mode room left) := by
  fun_induction decodeFrom d busy mode room left with
  | case1 busy mode room => exact Nat.zero_le _
  | case2 busy mode room b rest tight =>
    have wants : d.wants busy b rest ≤ 4 := Nat.le_of_lt_succ (sound.wants_lt busy b rest)
    exact ⟨Nat.zero_le _, Nat.succ_pos _, by simp only [List.length_nil]; omega⟩
  | case3 busy mode room b rest roomy chars length next reads text fitsRoom ih =>
    rcases sound.text fits reads with ⟨inside, -, -, -, fits⟩
    have short : text.length ≤ 3 * length := by
      have here := sparing mode b rest
      rw [reads] at here
      exact here.2
    have later := ih fits
    revert later
    generalize d.decodeFrom (d.busies busy b) next (room - text.length) (rest.drop (length - 1)) = r
    simp only [Spares, Decoded.after, List.length_append, List.length_cons, List.length_drop]
    cases r.stop <;> dsimp only <;> omega
  | case4 busy mode room b rest roomy chars length next reads text exceeds =>
    have here := sparing mode b rest
    rw [reads] at here
    have small : text.length ≤ 4 := here.1
    exact ⟨Nat.zero_le _, Nat.succ_pos _, by simp only [List.length_nil]; omega⟩
  | case5 busy mode room b rest roomy bad extra next reads => exact ⟨le_rfl, Nat.zero_le _⟩
  | case6 busy mode room b rest roomy bad extra earlier next reads =>
    exact (sound.punctual fits reads).elim

theorem isSparing_convert :
    (Call.convert left room (d.convert mode left room).1).IsSparing := by
  rcases sound.tells fits room with ⟨read, written, -⟩
  have spares : d.Spares room left (d.decode mode room left) := sound.spares_from sparing fits room false
  rw [convert]
  rw [Spares] at spares
  cases stop : (d.decode mode room left).stop with
  | inputEmpty =>
    rw [stop] at spares
    exact ⟨read, written, spares, fun full => by cases full⟩
  | outputFull =>
    rw [stop] at spares
    exact ⟨read, written, spares.1, fun _ => spares.2⟩
  | malformed bad extra =>
    rw [stop] at spares
    refine ⟨(Nat.sub_le _ _).trans read, written, spares.2, fun full => ?_⟩
    dsimp only at full
    split_ifs at full

end Sound

end Decoder

namespace WebSession

open Transcode

theorem exists_decoding {source target : String} {event : Event} {session : WebSession}
    (opened : open? source target = .ok (event, session))
    (toUtf8 : Encoding.ofLabel? target = some .utf8) : ∃ e, session = decoding e := by
  rw [open?, toUtf8] at opened
  split at opened
  · rename_i e output _ same
    rw [← Option.some.inj same, if_pos rfl] at opened
    cases opened
    exact ⟨e, rfl⟩
  · cases opened

/-- A run that decodes makes no call but of its decoder, in a mode that fits what is left. -/
theorem sparing_decoding (e : Encoding) (input : Bytes) :
    Sparing webCodec input.length (start (decoding e) input) := by
  refine calls_opening
    (P := fun s => ∃ mode, s.codec = .decode e mode ∧ e.Fits mode s.remaining) ?_ ?_
    ⟨_, rfl, e.decoder_sound.start input⟩
  · rintro s trace next ⟨mode, here, fits⟩ goesOn
    exact decodes_turn here fits goesOn
  · rintro s ⟨mode, here, fits⟩
    have report : (moveAt webCodec s).call =
        .convert s.remaining s.buffer.room
          (e.decoder.convert mode s.remaining s.buffer.room).1 := by
      rw [Move.call, length_offered_moveAt]
      simp only [moveAt, here]
      rfl
    rw [report]
    exact e.decoder_sound.isSparing_convert e.decoder_isSparing fits s.buffer.room

theorem run?_decoding (e : Encoding) (input : Bytes) :
    run? webCodec (callBound input.length 4 (3 * input.length)) (decoding e) input =
      some (transcode webCodec (decoding e) input) := by
  rcases (sparing_decoding e input).ends with ⟨run, stops⟩
  rw [stops, eq_transcode_of_run? stops (by simp [(transcode_decoding e input).1])]

/-- The block grows no more often than the length of the input can be halved, and twice more: for
any codec that writes no more than three bytes for each one it reads and lacks room only where fewer
than four bytes are free, wherever it reports bytes that it cannot read. All conversions to UTF-8
are by such codecs. -/
theorem growths_are_logarithmic :
    (∀ {σ : Type} (c : Codec σ) (codec : σ) (input : Bytes),
      Sparing c input.length (start codec input) →
        (∃ run, run? c (callBound input.length 4 (3 * input.length)) codec input = some run) ∧
        ∀ (limit : ℕ) (run : Run σ), run? c limit codec input = some run →
          run.trace.growths.length ≤ Nat.log 2 input.length + 2) ∧
    ∀ {source target : String} {event : Event} {session : WebSession},
      open? source target = .ok (event, session) → Encoding.ofLabel? target = some .utf8 →
        ∀ input : Bytes, Sparing webCodec input.length (start session input) ∧
          (transcode webCodec session input).trace.growths.length ≤ Nat.log 2 input.length + 2 := by
  have base (n : ℕ) : Nat.log 3 n ≤ Nat.log 2 n := Nat.log_anti_left (by decide) (by decide)
  refine ⟨fun c codec input sparing => ?_, fun {source target event session} opened toUtf8 input => ?_⟩
  · refine ⟨sparing.ends, fun limit run stops => ?_⟩
    have bound := length_growths_le stops (sparing.calls stops)
    have less := base input.length
    omega
  · rcases exists_decoding opened toUtf8 with ⟨e, rfl⟩
    have sparing := sparing_decoding e input
    refine ⟨sparing, ?_⟩
    have stops := run?_decoding e input
    have bound := length_growths_le stops (sparing.calls stops)
    have less := base input.length
    omega

/-- A codec that lacks room behind a character of three bytes and again where three bytes are free,
and then cannot read a byte. -/
def starving : Scripted WebSession :=
  .ofScript [⟨.outputFull, some 1, .bytes [0xE2, 0x82, 0xAC], none⟩,
    ⟨.outputFull, some 0, .bytes [], none⟩] 0 (.identity 0xFF)

theorem run_starving : ∃ run,
    runFrom (Scripted.codec webCodec) 2 5 (start starving [0x80, 0xFF]) = some run ∧
      run.trace.growths = [⟨3, 4, 6⟩, ⟨3, 6, 8⟩] ∧ ∀ call ∈ run.trace.calls, call.IsSparing := by
  obtain ⟨run, stops⟩ : ∃ run,
    runFrom (Scripted.codec webCodec) 2 5 (start starving [0x80, 0xFF]) = some run := ⟨_, rfl⟩
  exact ⟨run, stops, by cases stops; decide, by cases stops; decide⟩

/-- Two growths for two bytes; and euro signs with a byte between that is none. -/
theorem growths_are_logarithmic_erratic :
    (∃ run : Run (Scripted WebSession),
      Sparing (Scripted.codec webCodec) 2 (start starving [0x80, 0xFF]) ∧
      run? (Scripted.codec webCodec) 5 starving [0x80, 0xFF] = some run ∧
      run.trace.growths = [⟨3, 4, 6⟩, ⟨3, 6, 8⟩] ∧ run.trace.growths.length ≤ Nat.log 2 2 + 2) ∧
    ∃ session, open? "windows-1252" "utf-8" = .ok (.openedDecoder "windows-1252", session) ∧
      (transcode webCodec session [0x80, 0x81, 0x80]).trace.growths.length ≤ Nat.log 2 3 + 2 := by
  constructor
  · rcases run_starving with ⟨run, stops, growths, each⟩
    have sparing := sparing_of_run stops each
    have few := (growths_are_logarithmic.1 _ _ [0x80, 0xFF] sparing).2 5 run stops
    exact ⟨run, sparing, stops, growths, few⟩
  · have opened : open? "windows-1252" "utf-8" =
        .ok (.openedDecoder "windows-1252", decoding (.singleByte .windows1252)) := by rfl
    exact ⟨_, opened, (growths_are_logarithmic.2 opened (by rfl) _).2⟩

/-- The bytes that the growths of a run move are linear in its input as far as its growths are few,
for any codec that writes no more than three bytes for each one it reads and lacks room only where
fewer than four bytes are free: each growth moves at least two bytes for each one of the input, less
three, and at most three bytes for each one. There is one growth at most if no more than two bytes
are written for each one. -/
theorem moved_is_linear_in_growths {σ : Type} (c : Codec σ) (codec : σ) (input : Bytes)
    (sparing : Sparing c input.length (start codec input)) :
    (∃ run, run? c (callBound input.length 4 (3 * input.length)) codec input = some run) ∧
    ∀ (limit : ℕ) (run : Run σ), run? c limit codec input = some run →
      run.trace.growths.length * (2 * input.length - 3) ≤ run.trace.moved ∧
      run.trace.moved ≤ run.trace.growths.length * (3 * input.length) ∧
      run.trace.growths.length ≤ Nat.log 3 input.length + 2 ∧
      ((∀ call ∈ run.trace.calls, call.written ≤ 2 * call.read) →
        run.trace.moved ≤ 3 * input.length) := by
  refine ⟨sparing.ends, fun limit run stops => ?_⟩
  have calls := sparing.calls stops
  rcases moved_bounds stops calls with ⟨least, most⟩
  refine ⟨least, most, length_growths_le stops calls, fun rated => ?_⟩
  have one : run.trace.growths.length ≤ 1 := by
    have few := (run?_pays stops calls isPotential_min (by decide) rated).1
    omega
  calc run.trace.moved ≤ run.trace.growths.length * (3 * input.length) := most
    _ ≤ 1 * (3 * input.length) := Nat.mul_le_mul_right _ one
    _ = 3 * input.length := Nat.one_mul _

/-- A codec that lacks room behind a character of two bytes, and then copies. -/
def reluctant : Scripted WebSession :=
  .ofScript [⟨.outputFull, some 1, .bytes [0xC3, 0xA9], none⟩] 0 (.identity 0xFF)

/-- Three bytes moved twice; and two bytes moved once. -/
theorem moved_is_linear_in_growths_erratic :
    (∃ run : Run (Scripted WebSession),
      Sparing (Scripted.codec webCodec) 2 (start starving [0x80, 0xFF]) ∧
      run? (Scripted.codec webCodec) 5 starving [0x80, 0xFF] = some run ∧
      run.trace.moved = 6 ∧ 2 * (2 * 2 - 3) ≤ run.trace.moved ∧ run.trace.moved ≤ 2 * (3 * 2)) ∧
    ∃ run : Run (Scripted WebSession),
      Sparing (Scripted.codec webCodec) 2 (start reluctant [0xE9, 0x61]) ∧
      run? (Scripted.codec webCodec) 5 reluctant [0xE9, 0x61] = some run ∧
      (∀ call ∈ run.trace.calls, call.written ≤ 2 * call.read) ∧
      run.trace.growths = [⟨2, 4, 6⟩] ∧ run.trace.moved ≤ 3 * 2 := by
  constructor
  · rcases run_starving with ⟨run, stops, growths, each⟩
    have sparing := sparing_of_run stops each
    have bounds := (moved_is_linear_in_growths _ _ [0x80, 0xFF] sparing).2 5 run stops
    rw [growths] at bounds
    exact ⟨run, sparing, stops, by rw [Trace.moved, growths]; rfl, bounds.1, bounds.2.1⟩
  · obtain ⟨run, stops⟩ : ∃ run,
      runFrom (Scripted.codec webCodec) 2 5 (start reluctant [0xE9, 0x61]) = some run := ⟨_, rfl⟩
    have sparing : Sparing (Scripted.codec webCodec) 2 (start reluctant [0xE9, 0x61]) :=
      sparing_of_run stops (by cases stops; decide)
    have rated : ∀ call ∈ run.trace.calls, call.written ≤ 2 * call.read := by
      cases stops
      decide
    refine ⟨run, sparing, stops, rated, by cases stops; rfl, ?_⟩
    exact ((moved_is_linear_in_growths _ _ [0xE9, 0x61] sparing).2 5 run stops).2.2.2 rated

section Euros

abbrev western : Encoding := .singleByte .windows1252

variable (busy : Bool) (mode : western.decoder.Mode)

theorem decode_euro (room : ℕ) (rest : Bytes) :
    western.decoder.decodeFrom busy mode room (0x80 :: rest) =
      if 3 ≤ room then
        (western.decoder.decodeFrom true mode (room - 3) rest).after 1 [0xE2, 0x82, 0xAC]
      else ⟨0, [], .outputFull, mode⟩ := by
  have wants : western.decoder.wants busy 0x80 rest = 3 := rfl
  have reads : western.decoder.read mode 0x80 rest = .text [Char.ofNat 0x20AC] 1 mode := rfl
  have bytes : Utf8.encode [Char.ofNat 0x20AC] = [0xE2, 0x82, 0xAC] := by decide
  rw [Decoder.decodeFrom, wants, reads]
  by_cases fits : 3 ≤ room
  · rw [if_neg (Nat.not_lt.mpr fits), if_pos fits]
    simp only [bytes]
    exact if_pos fits
  · rw [if_pos (Nat.lt_of_not_le fits), if_neg fits]

/-- Where the room is too small for euro signs, decoding fills it but for two bytes at most. -/
theorem decode_euros (n room : ℕ) (tight : room < 3 * n) :
    (western.decoder.decodeFrom busy mode room (List.replicate n 0x80)).read = room / 3 ∧
      (western.decoder.decodeFrom busy mode room (List.replicate n 0x80)).output.length =
        3 * (room / 3) ∧
      (western.decoder.decodeFrom busy mode room (List.replicate n 0x80)).stop = .outputFull := by
  induction n generalizing busy room with
  | zero => omega
  | succ n ih =>
    rw [List.replicate_succ, decode_euro]
    by_cases fits : 3 ≤ room
    · rcases ih true (room - 3) (by omega) with ⟨read, output, stop⟩
      simp only [if_pos fits, Decoded.after, stop, read, List.length_append, output, and_true,
        List.length_cons, List.length_nil]
      omega
    · have none : room / 3 = 0 := by omega
      simp [fits, none]

/-- A turn at a power of three euro signs fills the room for twice as many bytes and leaves a third
of them, with as much room for each. -/
theorem turn_euros (total : ℕ) {j : ℕ} {s : Cursor WebSession} (codec : s.codec = .decode western mode)
    (left : s.remaining = List.replicate (3 ^ (j + 1)) 0x80) (room : s.buffer.room = 2 * 3 ^ (j + 1)) :
    ∃ trace next, turn webCodec total s = .more trace next ∧
      next.codec = .decode western mode ∧ next.remaining = List.replicate (3 ^ j) 0x80 ∧
      next.buffer.room = 2 * 3 ^ j ∧ next.buffer.written = s.buffer.written + 2 * 3 ^ (j + 1) ∧
      Trace.moved trace = s.buffer.written + 2 * 3 ^ (j + 1) := by
  have power : 3 ^ (j + 1) = 3 * 3 ^ j := pow_succ' 3 j
  have pos : 0 < 3 ^ j := Nat.pow_pos (by decide)
  rcases decode_euros false mode (3 ^ (j + 1)) (2 * 3 ^ (j + 1)) (by omega) with
    ⟨read, output, stop⟩
  have third : 2 * 3 ^ (j + 1) / 3 = 2 * 3 ^ j := by omega
  rw [third] at read output
  have report : (moveAt webCodec s).report =
      (western.decoder.convert mode (List.replicate (3 ^ (j + 1)) 0x80) (2 * 3 ^ (j + 1))).1 := by
    simp only [moveAt, codec, left, room]
    rfl
  rw [Decoder.convert] at report
  simp only [Decoder.decode, stop] at report
  have status : (moveAt webCodec s).report.status = .outputFull := congrArg Conversion.status report
  have taken : (moveAt webCodec s).report.read = 2 * 3 ^ j := (congrArg Conversion.read report).trans read
  have written : (moveAt webCodec s).report.written = 2 * 3 ^ (j + 1) :=
    (congrArg Conversion.written report).trans (output.trans (by omega))
  have fits : (moveAt webCodec s).report.written ≤ s.buffer.room := by omega
  have behind : (call webCodec s).2.2.remaining = List.replicate (3 ^ j) 0x80 := by
    change s.remaining.drop (moveAt webCodec s).report.read = _
    rw [left, taken, List.drop_replicate]
    congr 1
    omega
  have state : (call webCodec s).2.2.codec = .decode western mode := by
    change (webCodec.convert s.codec _ _).2 = _
    rw [codec]
    rfl
  have none := room_call fits
  have made := written_call fits
  have reacts := turn_reacts webCodec total s
  rw [status] at reacts
  generalize turn webCodec total s = turned at reacts ⊢
  cases reacts with
  | completes other | fails other => cases other
  | ends other | copiesLast other | copies other => rcases other with other | other <;> cases other
  | grows =>
    refine ⟨_, _, rfl, state, behind, ?_, ?_, ?_⟩
    · rw [Buffer.room_grow, behind, List.length_replicate]
      omega
    · exact made.trans (by rw [written])
    · rw [Trace.moved, Trace.growths_append, growths_calling]
      change (call webCodec s).2.2.buffer.written + 0 = _
      omega

theorem moved_euros {total j limit : ℕ} {s : Cursor WebSession} {run : Run WebSession}
    (stops : runFrom webCodec total limit s = some run) (codec : s.codec = .decode western mode)
    (left : s.remaining = List.replicate (3 ^ j) 0x80) (room : s.buffer.room = 2 * 3 ^ j) :
    j * (s.buffer.written + 2 * 3 ^ j) ≤ run.trace.moved := by
  induction j generalizing s limit run with
  | zero => simp
  | succ j ih =>
    rcases turn_euros mode total codec left room with
      ⟨trace, next, turned, codec, left, room, written, moved⟩
    cases limit with
    | zero => cases stops
    | succ limit =>
      simp only [runFrom, turned, Option.map_eq_some_iff] at stops
      rcases stops with ⟨later, stops, rfl⟩
      have more := ih stops codec left room
      rw [written] at more
      rw [Trace.moved_append, moved]
      calc (j + 1) * (s.buffer.written + 2 * 3 ^ (j + 1))
          = s.buffer.written + 2 * 3 ^ (j + 1) + j * (s.buffer.written + 2 * 3 ^ (j + 1)) := by ring
        _ ≤ s.buffer.written + 2 * 3 ^ (j + 1) +
              j * (s.buffer.written + 2 * 3 ^ (j + 1) + 2 * 3 ^ j) :=
          Nat.add_le_add_left (Nat.mul_le_mul_left _ (Nat.le_add_right _ _)) _
        _ ≤ s.buffer.written + 2 * 3 ^ (j + 1) + later.trace.moved := Nat.add_le_add_left more _

omit mode in
/-- Decoding a power of three euro signs moves twice their number so often as they can be parted in
three. -/
theorem moved_le_of_euros {k limit : ℕ} {run : Run WebSession}
    (stops : run? webCodec limit (decoding western) (List.replicate (3 ^ k) 0x80) = some run) :
    k * (2 * 3 ^ k) ≤ run.trace.moved := by
  rw [run?, if_neg (by simp)] at stops
  have moved := moved_euros western.decoder.start stops rfl rfl
    (by simp [start, Buffer.forInput, Buffer.room])
  simpa only [start, Buffer.forInput, Buffer.written, List.length_nil, Nat.zero_add] using moved

end Euros

/-- No state of a codec that can be come to makes a call that is not sparing. -/
def IsSparing {σ : Type} (c : Codec σ) (codec : σ) : Prop :=
  ∀ state, c.ReachableFrom codec state →
    ∀ left room, (Call.convert left room (c.convert state left room).1).IsSparing

theorem isSparing_western : IsSparing webCodec (decoding western) := by
  intro state reachable left room
  obtain ⟨mode, rfl⟩ : ∃ mode, state = .decode western mode := by
    induction reachable with
    | opened => exact ⟨_, rfl⟩
    | convert before input room ih =>
      rcases ih with ⟨mode, rfl⟩
      exact ⟨_, rfl⟩
    | reset before ih =>
      rcases ih with ⟨mode, rfl⟩
      exact ⟨_, rfl⟩
  exact western.decoder_sound.isSparing_convert western.decoder_isSparing trivial room

/-- No factor bounds the bytes moved by the length of the input for all codecs that are sparing. -/
theorem moved_is_not_linear :
    ¬ ∃ C : ℕ, ∀ (σ : Type) (c : Codec σ) (codec : σ), IsSparing c codec →
      ∀ (input : Bytes) (limit : ℕ) (run : Run σ), run? c limit codec input = some run →
        run.trace.moved ≤ C * input.length := by
  rintro ⟨C, linear⟩
  let input : Bytes := List.replicate (3 ^ (C + 1)) 0x80
  have least := moved_le_of_euros (run?_decoding western input)
  have most := linear _ _ _ isSparing_western _ _ _ (run?_decoding western input)
  have pos : 0 < 3 ^ (C + 1) := Nat.pow_pos (by decide)
  have length : input.length = 3 ^ (C + 1) := List.length_replicate
  rw [length] at most
  nlinarith

end WebSession

end LinkCharset
