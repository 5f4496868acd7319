import LinkCharset.Proofs.Codec.Splitting
import LinkCharset.Proofs.Utf8.Pieces

/-! # Encoding goes piece by piece

What an encoder makes of an input is settled by the pieces of the input: a character that it cannot
encode is copied as it stands, though its bytes are met one at a time, and so is every stray byte.
An encoder without shifts writes each piece as if it stood alone. -/
namespace LinkCharset

namespace Utf8

theorem front_of_continuing {b : UInt8} (continues : 0x80 ≤ b.toNat ∧ b.toNat < 0xC0) (rest : Bytes) :
    front b rest = .illFormed 1 false := by
  have lacks : owed b = none := by
    simp only [owed, UInt8.lt_iff_toNat_lt, UInt8.toNat_ofNat]
    rw [if_neg (by omega), if_pos (by omega)]
  rw [front, lacks]

theorem pieces_eq_nil_iff {input : Bytes} : pieces input = [] ↔ input = [] := by
  constructor
  · intro nothing
    rw [← flatMap_bytes_pieces input, nothing, List.flatMap_nil]
  · rintro rfl
    exact pieces_nil

end Utf8

namespace Encoder

open Utf8 (Piece pieces)

variable (e : Encoder)

/-- The output that is to come of some pieces. A run that has copied the last of them is over. -/
def madeOf (state : e.State) : List Piece → Marked
  | [] => .converted ((e.closing? state).elim [] Prod.fst)
  | .stray b :: rest => (b, true) :: if rest = [] then [] else madeOf state rest
  | .char c :: rest =>
    .converted (e.shifted state c).1 ++
      match e.bytes? (e.shifted state c).2 c with
      | none => .verbatim (Utf8.encodeChar c) ++
          if rest = [] then [] else madeOf (e.shifted state c).2 rest
      | some bytes => .converted bytes ++ madeOf (e.shifted state c).2 rest

section Char

variable {state next : e.State} {c : Char} {shift : Bytes} (shifts : e.shifted state c = (shift, next))
include shifts

theorem madeOf_of_unmappable (lacks : e.bytes? next c = none) (rest : List Piece) :
    e.madeOf state (.char c :: rest) = .converted shift ++
      (.verbatim (Utf8.encodeChar c) ++ if rest = [] then [] else e.madeOf next rest) := by
  rw [madeOf, shifts, lacks]

theorem madeOf_of_char {bytes : Bytes} (has : e.bytes? next c = some bytes) (rest : List Piece) :
    e.madeOf state (.char c :: rest) =
      .converted shift ++ (.converted bytes ++ e.madeOf next rest) := by
  rw [madeOf, shifts, has]

end Char

/-- Bytes that continue a character are copied one after the other where there is none. -/
theorem afterCopy_continuing (state : e.State) {tail : Bytes}
    (continues : ∀ b ∈ tail, 0x80 ≤ b.toNat ∧ b.toNat < 0xC0) (rest : Bytes) :
    afterCopy (e.made state) (tail ++ rest) = .verbatim tail ++ afterCopy (e.made state) rest := by
  induction tail with
  | nil => rfl
  | cons b tail ih =>
    rcases List.forall_mem_cons.mp continues with ⟨here, later⟩
    rw [List.cons_append, afterCopy, if_neg (List.cons_ne_nil _ _),
      made_of_illFormed (Utf8.front_of_continuing here _), ih later]
    rfl

theorem afterCopy_madeOf {state : e.State} {rest : Bytes}
    (made : e.made state rest = e.madeOf state (pieces rest)) :
    afterCopy (e.made state) rest =
      if pieces rest = [] then [] else e.madeOf state (pieces rest) := by
  rw [afterCopy, made]
  simp only [Utf8.pieces_eq_nil_iff]

theorem made_eq_madeOf (state : e.State) (input : Bytes) :
    e.made state input = e.madeOf state (pieces input) := by
  fun_induction pieces input generalizing state with
  | case1 =>
    rw [made, madeOf]
    cases e.closing? state with
    | none => rfl
    | some answer => rfl
  | case2 b rest c length reads ih =>
    cases has : e.bytes? (e.shifted state c).2 c with
    | some bytes =>
      rw [made_of_char reads Prod.mk.eta.symm has, ih, e.madeOf_of_char Prod.mk.eta.symm has,
        Marked.converted_append, List.append_assoc]
    | none =>
      have written := Utf8.encodeChar_of_front reads
      have continues : ∀ byte ∈ rest.take (length - 1), 0x80 ≤ byte.toNat ∧ byte.toNat < 0xC0 := by
        intro byte inside
        apply Utf8.continues_of_mem_tail (c := c)
        rwa [written, List.tail_cons]
      have tail := e.afterCopy_continuing (e.shifted state c).2 continues (rest.drop (length - 1))
      rw [List.take_append_drop, e.afterCopy_madeOf (ih _)] at tail
      rw [made_of_unmappable reads Prod.mk.eta.symm has, e.madeOf_of_unmappable Prod.mk.eta.symm has,
        tail, written]
      rfl
  | case3 b rest length truncated stops ih =>
    rw [madeOf, made_of_illFormed stops, e.afterCopy_madeOf (ih state)]

end Encoder

namespace Utf8.Piece

variable (bytes? : Char → Option Bytes)

def written : Piece → Bytes
  | char c => (bytes? c).getD (encodeChar c)
  | stray b => [b]

def copied : Piece → Bytes
  | char c => if (bytes? c).isSome then [] else encodeChar c
  | stray b => [b]

def marked : Piece → Marked
  | char c =>
    match bytes? c with
    | some bytes => .converted bytes
    | none => .verbatim (encodeChar c)
  | stray b => .verbatim [b]

@[simp] theorem bytes_marked (p : Piece) : (p.marked bytes?).bytes = p.written bytes? := by
  cases p with
  | stray b => rfl
  | char c =>
    rw [marked, written]
    cases bytes? c with
    | none => exact Marked.bytes_verbatim _
    | some bytes => exact Marked.bytes_converted bytes

@[simp] theorem copied_marked (p : Piece) : (p.marked bytes?).copied = p.copied bytes? := by
  cases p with
  | stray b => rfl
  | char c =>
    rw [marked, copied]
    cases bytes? c with
    | none => exact Marked.copied_verbatim _
    | some bytes => exact Marked.copied_converted bytes

end Utf8.Piece

namespace Encoder

variable {m : Margin} {bytes? : Char → Option Bytes} {state : (stateless m bytes?).State}

theorem madeOf_stateless (ps : List Utf8.Piece) :
    (stateless m bytes?).madeOf state ps = ps.flatMap (·.marked bytes?) := by
  induction ps with
  | nil => rfl
  | cons p ps ih =>
    have more : (if ps = [] then [] else (stateless m bytes?).madeOf state ps) =
        ps.flatMap (·.marked bytes?) := by
      split_ifs with last
      · rw [last, List.flatMap_nil]
      · exact ih
    rw [List.flatMap_cons]
    cases p with
    | stray b =>
      rw [madeOf, more]
      rfl
    | char c =>
      have shifted : (stateless m bytes?).shifted state c = ([], state) := rfl
      rw [Utf8.Piece.marked]
      cases has : bytes? c with
      | none =>
        rw [madeOf_of_unmappable _ shifted has, more]
        rfl
      | some bytes =>
        rw [madeOf_of_char _ shifted has, ih]
        rfl

theorem made_stateless (input : Bytes) :
    (stateless m bytes?).made state input = (Utf8.pieces input).flatMap (·.marked bytes?) := by
  rw [made_eq_madeOf, madeOf_stateless]

end Encoder

/-- Decoding UTF-8 makes the same of an input as an encoder that encodes every character as it is.
-/
theorem Utf8.made_eq_marked {mode : Utf8.Range} {input : Bytes} (fits : Utf8.Fits mode input) :
    Utf8.decoder.made mode input =
      (Utf8.pieces input).flatMap (·.marked fun c => some (Utf8.encodeChar c)) := by
  fun_induction pieces input generalizing mode with
  | case1 => exact Decoder.made_nil
  | case2 b rest c length reads ih =>
    have text : decoder.read mode b rest = .text [c] length mode := read_of_char reads
    rcases sound.text fits text with ⟨-, -, -, -, later⟩
    rw [Decoder.made_of_text text, ih later, List.flatMap_cons, encode_singleton]
    rfl
  | case3 b rest length truncated stops ih =>
    obtain rfl : mode = anyContinuation := fits (List.cons_ne_nil _ _)
    rcases read_of_illFormed stops with ⟨next, malformed, -⟩
    rcases sound.malformed fits malformed with ⟨-, later⟩
    rw [Decoder.made_of_malformed malformed, ih later, List.flatMap_cons]
    rfl

def Encoding.bytes? (e : Encoding) (c : Char) : Option Bytes := e.encoder.bytes? e.encoder.start c

theorem Encoding.made_encoder {e : Encoding} (stateless : e ≠ .iso2022Jp) (input : Bytes) :
    e.encoder.made e.encoder.start input = (Utf8.pieces input).flatMap (·.marked e.bytes?) := by
  cases e with
  | iso2022Jp => exact absurd rfl stateless
  | _ => exact Encoder.made_stateless input

namespace WebSession

variable {source target : String} {e : Encoding} {event : Event} {session : WebSession}

theorem session_of_open (fromUtf8 : Encoding.ofLabel? source = some .utf8)
    (into : Encoding.ofLabel? target = some e) (opened : open? source target = .ok (event, session)) :
    session = if e = .utf8 then decoding .utf8 else encoding e := by
  rw [open?, fromUtf8, into] at opened
  dsimp only at opened
  split_ifs at opened ⊢ <;> cases opened <;> rfl

theorem open?_of_utf8 (fromUtf8 : Encoding.ofLabel? source = some .utf8)
    (into : Encoding.ofLabel? target = some e) (foreign : e ≠ .utf8) (written : e.writtenAs = e) :
    open? source target = .ok (.openedEncoder e.name, encoding e) := by
  rw [open?, fromUtf8, into]
  dsimp only
  rw [if_neg foreign, if_pos ⟨rfl, written⟩]

/-- Encoding from UTF-8 without shifts goes character by character, and so does copying: each
character that has bytes in the encoding is written as these, each other one as it stands, and each
byte between characters as it is. The pieces are the whole input, and a character is one of them
wherever it stands. -/
theorem encoding_is_characterwise (fromUtf8 : Encoding.ofLabel? source = some .utf8)
    (into : Encoding.ofLabel? target = some e) (stateless : e ≠ .iso2022Jp)
    (opened : open? source target = .ok (event, session)) (input : Bytes) :
    (transcode webCodec session input).result =
        .ok ⟨(Utf8.pieces input).flatMap (·.written e.bytes?) ++ [0]⟩ ∧
      (transcode webCodec session input).trace.copiedBytes =
        (Utf8.pieces input).flatMap (·.copied e.bytes?) ∧
      (Utf8.pieces input).flatMap Utf8.Piece.bytes = input ∧
      ∀ before c after, input = before ++ Utf8.encodeChar c ++ after →
        Utf8.pieces input = Utf8.pieces before ++ .char c :: Utf8.pieces after := by
  have made : ∃ made : Marked, made = (Utf8.pieces input).flatMap (·.marked e.bytes?) ∧
      (transcode webCodec session input).result = .ok ⟨made.bytes ++ [0]⟩ ∧
      (transcode webCodec session input).trace.copiedBytes = made.copied := by
    rw [session_of_open fromUtf8 into opened]
    by_cases same : e = .utf8
    · subst same
      rw [if_pos rfl]
      exact ⟨_, Utf8.made_eq_marked (Utf8.sound.start input), transcode_decoding .utf8 input⟩
    · rw [if_neg same]
      exact ⟨_, Encoding.made_encoder stateless input, transcode_encoding e input fun jp => absurd jp stateless⟩
  rcases made with ⟨made, rfl, result, copied⟩
  rw [Marked.bytes_flatMap] at result
  rw [Marked.copied_flatMap] at copied
  simp only [Utf8.Piece.bytes_marked] at result
  simp only [Utf8.Piece.copied_marked] at copied
  refine ⟨result, copied, Utf8.flatMap_bytes_pieces input, ?_⟩
  rintro before c after rfl
  exact Utf8.pieces_append before c after

/-- A character that is cut off, a letter, an emoji that Latin-1 lacks, a letter that it writes in
one byte, and a byte that is none. -/
theorem encoding_is_characterwise_latin1 :
    Encoding.ofLabel? "utf-8" = some .utf8 ∧
    Encoding.ofLabel? "latin1" = some (.singleByte .windows1252) ∧
    Encoding.singleByte .windows1252 ≠ .iso2022Jp ∧
    ∃ session, open? "utf-8" "latin1" = .ok (.openedEncoder "windows-1252", session) ∧
      (transcode webCodec session
        [0xE2, 0x82, 0x41, 0xF0, 0x9F, 0x98, 0x80, 0xC3, 0xA9, 0xFF]).result =
          .ok ⟨[0xE2, 0x82, 0x41, 0xF0, 0x9F, 0x98, 0x80, 0xE9, 0xFF, 0]⟩ ∧
      (transcode webCodec session
        [0xE2, 0x82, 0x41, 0xF0, 0x9F, 0x98, 0x80, 0xC3, 0xA9, 0xFF]).trace.copiedBytes =
          [0xE2, 0x82, 0xF0, 0x9F, 0x98, 0x80, 0xFF] := by
  have fromUtf8 : Encoding.ofLabel? "utf-8" = some .utf8 := by rfl
  have into : Encoding.ofLabel? "latin1" = some (.singleByte .windows1252) := by rfl
  have stateless : Encoding.singleByte .windows1252 ≠ .iso2022Jp := by decide
  have opened : open? "utf-8" "latin1" =
      .ok (.openedEncoder "windows-1252", encoding (.singleByte .windows1252)) := by rfl
  have pieces : Utf8.pieces [0xE2, 0x82, 0x41, 0xF0, 0x9F, 0x98, 0x80, 0xC3, 0xA9, 0xFF] =
      [.stray 0xE2, .stray 0x82, .char 'A', .char '😀', .char 'é', .stray 0xFF] := by
    simp [Utf8.pieces, Utf8.front, Utf8.owed, Utf8.follow, Utf8.payload]
  rcases encoding_is_characterwise fromUtf8 into stateless opened
    [0xE2, 0x82, 0x41, 0xF0, 0x9F, 0x98, 0x80, 0xC3, 0xA9, 0xFF] with ⟨result, copied, -⟩
  rw [pieces] at result copied
  exact ⟨fromUtf8, into, stateless, _, opened, result, copied⟩

end WebSession

end LinkCharset
