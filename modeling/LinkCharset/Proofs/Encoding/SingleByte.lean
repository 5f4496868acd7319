import LinkCharset.Proofs.Codec.Piecewise
import LinkCharset.Proofs.Encoding.Chart

/-! # Single-byte text

Decoding goes byte by byte: each byte becomes the character that it stands for, or stays as it is if
it stands for none. Every character beyond ASCII takes more than one byte, so that an input comes
out as it was only if it has none. A character is encoded as a byte that stands for it, which is the
one that it came from where no two bytes stand for the same. -/
namespace LinkCharset

namespace SingleByte

variable (t : SingleByte) {b : UInt8} {c : Char}

theorem char?_of_ascii (ascii : isAscii b = true) : t.char? b = some (Char.ofNat b.toNat) :=
  if_pos ascii

theorem char?_of_upper (upper : 0x80 ≤ b.toNat) : t.char? b = t.chart.char? (b.toNat - 0x80) := by
  rw [char?, if_neg]
  rw [Utf8.isAscii_iff]
  omega

theorem beyond_of_char? (upper : 0x80 ≤ b.toNat) (has : t.char? b = some c) :
    0x80 ≤ c.toNat ∧ c.toNat < 0x10000 := by
  rw [char?_of_upper t upper] at has
  exact t.isUpperHalf_chart.beyond_of_char? has

/-- The UTF-8 form of the character that a byte stands for, or the byte itself. -/
def decoded (b : UInt8) : Bytes := ((t.char? b).map Utf8.encodeChar).getD [b]

def marked (b : UInt8) : Marked :=
  ((t.char? b).map fun c => Marked.converted (Utf8.encodeChar c)).getD [(b, true)]

@[simp] theorem bytes_marked (b : UInt8) : (t.marked b).bytes = t.decoded b := by
  rw [marked, decoded]
  cases t.char? b <;> simp

@[simp] theorem copied_marked (b : UInt8) :
    (t.marked b).copied = if (t.char? b).isNone then [b] else [] := by
  rw [marked]
  cases t.char? b <;> simp

theorem made_eq (input : Bytes) : t.decoder.made () input = input.flatMap t.marked := by
  induction input with
  | nil => exact Decoder.made_nil
  | cons b rest ih =>
    rw [List.flatMap_cons, ← ih, marked]
    cases has : t.char? b with
    | some c =>
      have reads : t.decoder.read () b rest = .text [c] 1 () := by
        change t.read b rest = _
        rw [read, has]
        rfl
      rw [Decoder.made_of_text reads, Utf8.encode_singleton]
      rfl
    | none =>
      have reads : t.decoder.read () b rest = .malformed 1 0 () := by
        change t.read b rest = _
        rw [read, has]
        rfl
      rw [Decoder.made_of_malformed reads]
      rfl

theorem bytes_made (input : Bytes) : (t.decoder.made () input).bytes = input.flatMap t.decoded := by
  rw [made_eq, Marked.bytes_flatMap]
  simp only [bytes_marked]

theorem copied_made (input : Bytes) :
    (t.decoder.made () input).copied = input.filter fun b => (t.char? b).isNone := by
  rw [made_eq, Marked.copied_flatMap]
  simp only [copied_marked]
  induction input with
  | nil => rfl
  | cons b rest ih =>
    rw [List.flatMap_cons, ih, List.filter_cons]
    split_ifs <;> rfl

theorem length_decoded_pos (b : UInt8) : 0 < (t.decoded b).length := by
  rw [decoded]
  cases t.char? b with
  | none => simp
  | some c => exact Utf8.length_encodeChar_pos c

theorem decoded_eq_iff : t.decoded b = [b] ↔ (0x80 ≤ b.toNat → t.char? b = none) := by
  constructor
  · intro same upper
    by_contra has
    rcases Option.ne_none_iff_exists'.mp has with ⟨c, has⟩
    have longer := Utf8.one_lt_length_encodeChar (t.beyond_of_char? upper has).1
    rw [decoded, has] at same
    change Utf8.encodeChar c = [b] at same
    rw [same] at longer
    exact absurd longer (by simp)
  · intro stays
    rw [decoded]
    by_cases ascii : isAscii b = true
    · rw [t.char?_of_ascii ascii]
      exact Utf8.encodeChar_of_ascii ascii
    · rw [stays (by rw [Utf8.isAscii_iff] at ascii; omega)]
      rfl

theorem length_le_flatMap_decoded (input : Bytes) : input.length ≤ (input.flatMap t.decoded).length := by
  induction input with
  | nil => simp
  | cons b rest ih =>
    have here := t.length_decoded_pos b
    rw [List.flatMap_cons, List.length_append, List.length_cons]
    omega

/-- What has become longer somewhere does not become shorter again, so that an input is decoded as
itself only if each of its bytes is. -/
theorem flatMap_decoded_eq_iff (input : Bytes) :
    input.flatMap t.decoded = input ↔ ∀ b ∈ input, 0x80 ≤ b.toNat → t.char? b = none := by
  induction input with
  | nil => simp
  | cons b rest ih =>
    rw [List.flatMap_cons, List.forall_mem_cons, ← ih, ← decoded_eq_iff]
    constructor
    · intro whole
      have total := congrArg List.length whole
      have here := t.length_decoded_pos b
      have later := t.length_le_flatMap_decoded rest
      rw [List.length_append, List.length_cons] at total
      have one : (t.decoded b).length = [b].length := by
        rw [List.length_singleton]
        omega
      exact List.append_inj whole one
    · rintro ⟨here, later⟩
      rw [here, later]
      rfl

variable {t}

theorem exists_byte? (has : t.char? b = some c) : ∃ d, t.byte? c = some d ∧ t.char? d = some c := by
  by_cases ascii : isAscii b = true
  · rw [t.char?_of_ascii ascii, Option.some.injEq] at has
    have low := Utf8.isAscii_iff.mp ascii
    have code : c.toNat = b.toNat := by
      rw [← has, Utf8.toNat_ofNat (.inl (by omega))]
    refine ⟨b, ?_, by rw [t.char?_of_ascii ascii, has]⟩
    rw [byte?, if_pos (by omega), code, UInt8.ofNat_toNat]
  · have upper : 0x80 ≤ b.toNat := by
      rw [Utf8.isAscii_iff] at ascii
      omega
    have beyond := t.beyond_of_char? upper has
    rw [t.char?_of_upper upper] at has
    rcases t.isUpperHalf_chart.exists_position? has with ⟨p, found⟩
    rcases t.isUpperHalf_chart.char?_position? found with ⟨inside, holds⟩
    have value : (UInt8.ofNat (0x80 + p)).toNat = 0x80 + p :=
      UInt8.toNat_ofNat_of_lt' (by change _ < 256; omega)
    refine ⟨.ofNat (0x80 + p), ?_, ?_⟩
    · rw [byte?, if_neg (by omega), found, Option.map_some]
    · rw [t.char?_of_upper (by omega), value, Nat.add_sub_cancel_left, holds]

section Injective

variable (injective : Function.Injective t.char?) {input : Bytes}
include injective

theorem byte?_of_char? (has : t.char? b = some c) : t.byte? c = some b := by
  rcases exists_byte? has with ⟨d, found, holds⟩
  rw [found, injective (holds.trans has.symm)]

theorem flatMap_marked_chars (assigned : ∀ b ∈ input, (t.char? b).isSome) :
    ((input.filterMap t.char?).map Utf8.Piece.char).flatMap
        (·.marked (Encoding.singleByte t).bytes?) = Marked.converted input := by
  induction input with
  | nil => rfl
  | cons b rest ih =>
    rcases List.forall_mem_cons.mp assigned with ⟨here, later⟩
    rcases Option.isSome_iff_exists.mp here with ⟨c, has⟩
    have written : (Encoding.singleByte t).bytes? c = some [b] := by
      change (t.byte? c).map ([·]) = _
      rw [byte?_of_char? injective has]
      rfl
    rw [List.filterMap_cons_some has, List.map_cons, List.flatMap_cons, ih later, Utf8.Piece.marked,
      written]
    rfl

end Injective

/-- Where every byte stands for a character, the output of decoding is their text. -/
theorem flatMap_marked_of_assigned {input : Bytes} (assigned : ∀ b ∈ input, (t.char? b).isSome) :
    input.flatMap t.marked = Marked.converted (Utf8.encode (input.filterMap t.char?)) := by
  induction input with
  | nil => rfl
  | cons b rest ih =>
    rcases List.forall_mem_cons.mp assigned with ⟨here, later⟩
    rcases Option.isSome_iff_exists.mp here with ⟨c, has⟩
    rw [List.flatMap_cons, ih later, List.filterMap_cons_some has, Utf8.encode_cons,
      Marked.converted_append, marked, has]
    rfl

theorem bind_byte?_windows1252 (b : UInt8) :
    (windows1252.char? b).bind windows1252.byte? = some b := by
  have all : ∀ n < 256,
      (windows1252.char? (.ofNat n)).bind windows1252.byte? = some (.ofNat n) := by decide +kernel
  simpa using all b.toNat b.toNat_lt

theorem isSome_char?_windows1252 (b : UInt8) : (windows1252.char? b).isSome := by
  have back := bind_byte?_windows1252 b
  cases has : windows1252.char? b with
  | none =>
    rw [has] at back
    cases back
  | some c => rfl

theorem flatMap_decoded_windows1252_iff (input : Bytes) :
    input.flatMap windows1252.decoded = input ↔ ∀ b ∈ input, isAscii b = true := by
  rw [flatMap_decoded_eq_iff]
  refine forall₂_congr fun b _ => ?_
  have assigned := Option.isSome_iff_ne_none.mp (isSome_char?_windows1252 b)
  rw [Utf8.isAscii_iff, ← not_le]
  simp [assigned]

theorem injective_char?_windows1252 : Function.Injective windows1252.char? := by
  intro b d same
  have back := bind_byte?_windows1252 b
  rw [same, bind_byte?_windows1252 d] at back
  exact (Option.some.inj back).symm

end SingleByte

namespace WebSession

variable {legacy unicode : String} {t : SingleByte}

/-- Where every byte stands for a character and no two for the same one, what has been decoded is
encoded as it was, and nothing is copied on either way. -/
theorem encoding_undoes_decoding (resolves : Encoding.ofLabel? legacy = some (.singleByte t))
    (utf8 : Encoding.ofLabel? unicode = some .utf8) (assigned : ∀ b, (t.char? b).isSome)
    (injective : Function.Injective t.char?) (input : Bytes) :
    ∃ there back, open? legacy unicode = .ok (.openedDecoder t.name, there) ∧
      open? unicode legacy = .ok (.openedEncoder t.name, back) ∧
      ∃ text : List Char, text = input.filterMap t.char? ∧
        (transcode webCodec there input).result = .ok ⟨Utf8.encode text ++ [0]⟩ ∧
        (transcode webCodec there input).trace.copiedBytes = [] ∧
        (transcode webCodec back (Utf8.encode text)).result = .ok ⟨input ++ [0]⟩ ∧
        (transcode webCodec back (Utf8.encode text)).trace.copiedBytes = [] := by
  have openedBack : open? unicode legacy =
      .ok (.openedEncoder t.name, encoding (.singleByte t)) :=
    open?_of_utf8 utf8 resolves (by simp) rfl
  have decoded : (Encoding.singleByte t).decoder.made (Encoding.singleByte t).decoder.start input =
      .converted (Utf8.encode (input.filterMap t.char?)) :=
    (t.made_eq input).trans (SingleByte.flatMap_marked_of_assigned fun b _ => assigned b)
  have encoded : (Encoding.singleByte t).encoder.made (Encoding.singleByte t).encoder.start
      (Utf8.encode (input.filterMap t.char?)) = .converted input := by
    rw [Encoding.made_encoder (by simp), Utf8.pieces_encode]
    exact SingleByte.flatMap_marked_chars injective fun b _ => assigned b
  rcases transcode_decoding (.singleByte t) input with ⟨result, copied⟩
  rcases transcode_encoding (.singleByte t) (Utf8.encode (input.filterMap t.char?)) nofun with
    ⟨result', copied'⟩
  rw [decoded, Marked.bytes_converted] at result
  rw [decoded, Marked.copied_converted] at copied
  rw [encoded, Marked.bytes_converted] at result'
  rw [encoded, Marked.copied_converted] at copied'
  exact ⟨_, _, open?_of_labels resolves utf8, openedBack, _, rfl, result, copied, result', copied'⟩

/-- Three signs of three bytes each in UTF-8, a control character, and letters. -/
theorem encoding_undoes_decoding_latin1 :
    Encoding.ofLabel? "latin1" = some (.singleByte .windows1252) ∧
    Encoding.ofLabel? "utf-8" = some .utf8 ∧
    (∀ b, (SingleByte.windows1252.char? b).isSome) ∧
    Function.Injective SingleByte.windows1252.char? ∧
    ∃ there back, open? "latin1" "utf-8" = .ok (.openedDecoder "windows-1252", there) ∧
      open? "utf-8" "latin1" = .ok (.openedEncoder "windows-1252", back) ∧
      (transcode webCodec there [0x80, 0x99, 0x85, 0x81, 0xFF, 0x41]).result =
        .ok ⟨[0xE2, 0x82, 0xAC, 0xE2, 0x84, 0xA2, 0xE2, 0x80, 0xA6, 0xC2, 0x81, 0xC3, 0xBF, 0x41, 0]⟩ ∧
      (transcode webCodec there [0x80, 0x99, 0x85, 0x81, 0xFF, 0x41]).trace.copiedBytes = [] ∧
      (transcode webCodec back [0xE2, 0x82, 0xAC, 0xE2, 0x84, 0xA2, 0xE2, 0x80, 0xA6, 0xC2, 0x81, 0xC3,
        0xBF, 0x41]).result = .ok ⟨[0x80, 0x99, 0x85, 0x81, 0xFF, 0x41, 0]⟩ ∧
      (transcode webCodec back [0xE2, 0x82, 0xAC, 0xE2, 0x84, 0xA2, 0xE2, 0x80, 0xA6, 0xC2, 0x81, 0xC3,
        0xBF, 0x41]).trace.copiedBytes = [] := by
  have resolves : Encoding.ofLabel? "latin1" = some (.singleByte .windows1252) := by rfl
  have utf8 : Encoding.ofLabel? "utf-8" = some .utf8 := by rfl
  have assigned := SingleByte.isSome_char?_windows1252
  have injective := SingleByte.injective_char?_windows1252
  have spelt : Utf8.encode ([0x80, 0x99, 0x85, 0x81, 0xFF, 0x41].filterMap SingleByte.windows1252.char?) =
      [0xE2, 0x82, 0xAC, 0xE2, 0x84, 0xA2, 0xE2, 0x80, 0xA6, 0xC2, 0x81, 0xC3, 0xBF, 0x41] := by decide
  rcases encoding_undoes_decoding resolves utf8 assigned injective
    [0x80, 0x99, 0x85, 0x81, 0xFF, 0x41] with ⟨there, back, opened, openedBack, text, rfl, returns⟩
  rw [spelt] at returns
  exact ⟨resolves, utf8, assigned, injective, there, back, opened, openedBack, returns⟩

end WebSession

end LinkCharset
