import LinkCharset.Proofs.Codec.Piecewise
import LinkCharset.Proofs.Codec.Splitting
import LinkCharset.Proofs.Utf8.Validation

/-! # Ill-formed UTF-8 in both directions

Decoding UTF-8 and encoding from it stop at the same place, behind the longest text in front of
their input. Encoding tells bytes that are cut short from bytes that are none; decoding only sees
whether the ill-formed part is the last one, so that a byte at the end that begins nothing passes
for one that is cut short. -/
namespace LinkCharset

namespace Utf8

variable {c : Char} {cs : List Char} {left : Bytes} {room : ℕ}

theorem decode_encodeChar_append (roomy : (encodeChar c).length ≤ room) :
    decoder.decode anyContinuation room (encodeChar c ++ left) =
      (decoder.decode anyContinuation (room - (encodeChar c).length) left).after
        (encodeChar c).length (encodeChar c) := by
  rcases front_encodeChar c left with ⟨lead, tail, bytes, reads⟩
  have read : decoder.read anyContinuation lead (tail ++ left) =
      .text [c] (tail.length + 1) anyContinuation := read_of_char reads
  have length : tail.length + 1 = (encodeChar c).length := by rw [bytes, List.length_cons]
  have wants : decoder.wants false lead (tail ++ left) = (encodeChar c).length := by
    change wants false lead (tail ++ left) = _
    rw [wants, reads, length]
  nth_rewrite 1 [bytes]
  rw [List.cons_append, Decoder.decode, Decoder.decodeFrom, wants, if_neg (Nat.not_lt.mpr roomy), read]
  dsimp only
  rw [encode_singleton, if_pos roomy, Nat.add_sub_cancel, List.drop_left, length, Decoder.decode]

theorem decode_encode_append (roomy : (encode cs).length ≤ room) :
    decoder.decode anyContinuation room (encode cs ++ left) =
      (decoder.decode anyContinuation (room - (encode cs).length) left).after (encode cs).length
        (encode cs) := by
  induction cs generalizing room with
  | nil => simp [Decoded.after]
  | cons c cs ih =>
    rw [encode_cons, List.length_append] at roomy
    rw [encode_cons, List.append_assoc, decode_encodeChar_append (by omega), ih (by omega),
      List.length_append, Nat.sub_add_eq]
    simp only [Decoded.after, Nat.add_assoc, List.append_assoc]

theorem convert_encode_append (cs : List Char) {lead : UInt8} {rest : Bytes} {length : ℕ}
    {truncated : Bool} (stops : front lead rest = .illFormed length truncated)
    (roomy : (encode cs).length + 4 ≤ room) :
    (decoder.convert anyContinuation (encode cs ++ lead :: rest) room).1 =
      ⟨(encode cs).length, (encode cs).length,
        if (lead :: rest).take length = lead :: rest then .incomplete else .invalid, encode cs⟩ := by
  rcases read_of_illFormed stops with ⟨next, reads, -⟩
  have wants : decoder.wants false lead rest = 4 := by
    change wants false lead rest = 4
    rw [wants, stops]
  have here {room : ℕ} (roomy : 4 ≤ room) : decoder.decode anyContinuation room (lead :: rest) =
      ⟨length, [], .malformed length 0, next⟩ := by
    rw [Decoder.decode, Decoder.decodeFrom, wants, if_neg (Nat.not_lt.mpr roomy),
      show decoder.read anyContinuation lead rest = _ from reads]
    rfl
  have last : (List.drop ((encode cs).length + length) (encode cs ++ lead :: rest)).isEmpty ↔
      (lead :: rest).take length = lead :: rest := by
    rw [List.drop_append, List.isEmpty_iff, List.take_eq_self_iff]
    simp
  rw [Decoder.convert, decode_encode_append (by omega), here (by omega)]
  simp only [Decoded.after, List.append_nil, Nat.add_zero, Nat.add_sub_cancel, true_and, last]

end Utf8

namespace SingleByte

variable {t : SingleByte} {c : Char} {cs : List Char} {left : Bytes} {room : ℕ}
  (state : t.encoder.State)

theorem encode_encodeChar_append {b : UInt8} (has : t.byte? c = some b) (roomy : 1 ≤ room) :
    t.encoder.encode state room (Utf8.encodeChar c ++ left) =
      (t.encoder.encode state (room - 1) left).after (Utf8.encodeChar c).length [b] := by
  rcases Utf8.front_encodeChar c left with ⟨lead, tail, bytes, reads⟩
  have written : t.encoder.bytes? state c = some [b] := by
    change (t.byte? c).map ([·]) = some [b]
    rw [has, Option.map_some]
  have wants : t.encoder.wants false c = 1 := by
    change (if _ then 1 else 1) = 1
    exact ite_self 1
  have unshifted : t.encoder.shiftInto false state c room = some ([], state) := by
    rw [Encoder.shiftInto, wants]
    exact if_pos roomy
  have length : tail.length + 1 = (Utf8.encodeChar c).length := by rw [bytes, List.length_cons]
  nth_rewrite 1 [bytes]
  rw [List.cons_append, Encoder.encode, Encoder.encodeFrom, reads]
  dsimp only
  rw [unshifted]
  dsimp only
  rw [written, wants]
  simp only [List.nil_append, List.length_singleton, List.length_nil, Nat.sub_zero, Nat.max_self,
    if_pos roomy, Nat.add_sub_cancel, List.drop_left]
  rw [length]
  rfl

theorem encode_encode_append (mapped : ∀ c ∈ cs, (t.byte? c).isSome) (roomy : cs.length ≤ room) :
    t.encoder.encode state room (Utf8.encode cs ++ left) =
      (t.encoder.encode state (room - cs.length) left).after (Utf8.encode cs).length
        (cs.filterMap t.byte?) := by
  induction cs generalizing room with
  | nil => simp [Encoded.after]
  | cons c cs ih =>
    rcases Option.isSome_iff_exists.mp (mapped c List.mem_cons_self) with ⟨b, has⟩
    rw [List.length_cons] at roomy
    rw [Utf8.encode_cons, List.append_assoc, encode_encodeChar_append state has (by omega),
      ih (fun c inside => mapped c (List.mem_cons_of_mem _ inside)) (by omega), List.length_append,
      List.length_cons, Nat.add_comm cs.length, Nat.sub_add_eq, List.filterMap_cons_some has]
    simp only [Encoded.after, Nat.add_assoc, List.cons_append, List.nil_append]

theorem convert_encode_append (cs : List Char) {lead : UInt8} {rest : Bytes} {length : ℕ}
    {truncated : Bool} (stops : Utf8.front lead rest = .illFormed length truncated)
    (mapped : ∀ c ∈ cs, (t.byte? c).isSome) (roomy : cs.length ≤ room) :
    (t.encoder.convert state (Utf8.encode cs ++ lead :: rest) room).1 =
      ⟨(Utf8.encode cs).length, (cs.filterMap t.byte?).length,
        if truncated then .incomplete else .invalid, cs.filterMap t.byte?⟩ := by
  have here (room : ℕ) : t.encoder.encode state room (lead :: rest) =
      ⟨0, [], .illFormed truncated, state⟩ := by
    rw [Encoder.encode, Encoder.encodeFrom, stops]
  rw [Encoder.convert, encode_encode_append state mapped roomy, here]
  simp only [Encoded.after, Nat.add_zero, List.append_nil, EncodeStop.status]

end SingleByte

theorem Utf8.length_le_length_encode (cs : List Char) : cs.length ≤ (encode cs).length := by
  induction cs with
  | nil => exact le_rfl
  | cons c cs ih =>
    have some := length_encodeChar_pos c
    rw [encode_cons, List.length_cons, List.length_append]
    omega

namespace WebSession

/-- Input that is no UTF-8 goes on behind a text with what is part of no character. Decoding as
UTF-8 and encoding into a single-byte encoding stop there alike, if there are bytes for the text.
Both call bytes invalid that something follows, and incomplete where the input ends within a
character. They differ where the input ends in a byte that begins none: it is invalid for encoding,
and incomplete for decoding. -/
theorem illFormed_in_both_directions {source target : String} {t : SingleByte}
    (fromUtf8 : Encoding.ofLabel? source = some .utf8)
    (into : Encoding.ofLabel? target = some (.singleByte t)) :
    open? source source = .ok (.openedDecoder "UTF-8", decoding .utf8) ∧
    open? source target = .ok (.openedEncoder t.name, encoding (.singleByte t)) ∧
    (∀ input, ¬ Utf8.IsText input → ∃ (text : List Char) (left bad : Bytes),
      input = Utf8.encode text ++ left ∧ Utf8.IllFormed left bad) ∧
    ∀ (text : List Char) (left bad : Bytes) (room : ℕ), Utf8.IllFormed left bad →
      (∀ c ∈ text, (t.byte? c).isSome) → (Utf8.encode text).length + 4 ≤ room →
        let decoded := ((decoding .utf8).convert (Utf8.encode text ++ left) room).1
        let encoded := ((encoding (.singleByte t)).convert (Utf8.encode text ++ left) room).1
        decoded.read = (Utf8.encode text).length ∧ encoded.read = (Utf8.encode text).length ∧
          (bad = left ∧ Utf8.Begins bad ∧
              decoded.status = .incomplete ∧ encoded.status = .incomplete ∨
            bad ≠ left ∧ decoded.status = .invalid ∧ encoded.status = .invalid ∨
            bad = left ∧ ¬ Utf8.Begins bad ∧ bad.length = 1 ∧
              decoded.status = .incomplete ∧ encoded.status = .invalid) := by
  refine ⟨open?_of_labels fromUtf8 fromUtf8, open?_of_utf8 fromUtf8 into (by simp) rfl, ?_, ?_⟩
  · intro input broken
    rcases Utf8.text_or_fault input with whole | ⟨text, lead, rest, length, truncated, whole, stops⟩
    · exact absurd (Utf8.isText_iff.mpr whole) broken
    · exact ⟨text, lead :: rest, _, whole.symm, Utf8.illFormed_of_front stops⟩
  · intro text left bad room faulty mapped roomy
    rcases faulty.exists_front with ⟨lead, rest, length, truncated, rfl, rfl, stops⟩
    have cut := Utf8.truncated_iff stops
    have decoded : ((decoding .utf8).convert (Utf8.encode text ++ lead :: rest) room).1 = _ :=
      Utf8.convert_encode_append text stops roomy
    have encoded : ((encoding (.singleByte t)).convert (Utf8.encode text ++ lead :: rest) room).1 = _ :=
      SingleByte.convert_encode_append t.encoder.start text stops mapped
        ((Utf8.length_le_length_encode text).trans (by omega))
    dsimp only
    rw [decoded, encoded]
    refine ⟨rfl, rfl, ?_⟩
    by_cases last : (lead :: rest).take length = lead :: rest
    · by_cases begins : Utf8.Begins ((lead :: rest).take length)
      · exact .inl ⟨last, begins, if_pos last, if_pos (cut.mpr ⟨last, begins⟩)⟩
      · refine .inr (.inr ⟨last, begins, faulty.begins.resolve_left begins, if_pos last, if_neg ?_⟩)
        exact fun truncated => begins (cut.mp truncated).2
    · exact .inr (.inl ⟨last, if_neg last, if_neg fun truncated => last (cut.mp truncated).1⟩)

theorem illFormed_lone : Utf8.IllFormed [0xFF] [0xFF] ∧ ¬ Utf8.Begins [0xFF] := by
  have stops : Utf8.front 0xFF [] = .illFormed 1 false := by decide
  refine ⟨Utf8.illFormed_of_front stops, fun begins => ?_⟩
  have cut := (Utf8.truncated_iff stops).mpr ⟨rfl, begins⟩
  cases cut

/-- A letter and a euro sign in front of a byte that begins nothing. -/
theorem illFormed_in_both_directions_euro :
    Encoding.ofLabel? "utf8" = some .utf8 ∧
    Encoding.ofLabel? "latin1" = some (.singleByte .windows1252) ∧
    ((decoding .utf8).convert (Utf8.encode ['a', '€'] ++ [0xFF]) 8).1.read = 4 ∧
    ((encoding (.singleByte .windows1252)).convert (Utf8.encode ['a', '€'] ++ [0xFF]) 8).1.read = 4 := by
  have fromUtf8 : Encoding.ofLabel? "utf8" = some .utf8 := by rfl
  have into : Encoding.ofLabel? "latin1" = some (.singleByte .windows1252) := by rfl
  have mapped : ∀ c ∈ ['a', '€'], (SingleByte.windows1252.byte? c).isSome :=
    List.forall_mem_cons.mpr ⟨by rfl, List.forall_mem_singleton.mpr (by rfl)⟩
  rcases (illFormed_in_both_directions fromUtf8 into).2.2.2 ['a', '€'] [0xFF] [0xFF] 8
    illFormed_lone.1 mapped (by decide) with ⟨decoded, encoded, -⟩
  exact ⟨fromUtf8, into, decoded, encoded⟩

/-- The byte `0xFF` begins no character, and is the whole of its input. Decoding says that the input
ends within a character, and encoding that it does not. -/
theorem lone_byte_passes_for_cut_short :
    ¬ Utf8.IsText [0xFF] ∧ ¬ Utf8.Begins [0xFF] ∧
      ((decoding .utf8).convert [0xFF] 16).1 = ⟨0, 0, .incomplete, []⟩ ∧
      ((encoding (.singleByte .windows1252)).convert [0xFF] 16).1 = ⟨0, 0, .invalid, []⟩ := by
  have stops : Utf8.front 0xFF [] = .illFormed 1 false := by decide
  refine ⟨fun text => ?_, illFormed_lone.2, ?_, ?_⟩
  · rcases Utf8.isText_iff.mp text with ⟨cs, written⟩
    have accepts := Utf8.validate_eq_ok_iff.mpr written
    rw [show [0xFF] = Utf8.encode [] ++ [0xFF] from rfl, Utf8.validate_encode_append [] stops] at accepts
    cases accepts
  · exact Utf8.convert_encode_append [] stops (by decide)
  · exact SingleByte.convert_encode_append _ [] stops (by simp) (Nat.zero_le 16)

end WebSession

end LinkCharset
