import LinkCharset.Proofs.Utf8

/-! # The pieces of arbitrary bytes

Any bytes part into characters and stray bytes. A character is a piece wherever it stands, so that
what stands around it makes no difference to it, nor it to what stands around it. -/
namespace LinkCharset.Utf8

/-- A character, or a byte that is part of none. -/
inductive Piece where
  | char (c : Char)
  | stray (b : UInt8)
  deriving DecidableEq, Repr

def Piece.bytes : Piece → Bytes
  | char c => encodeChar c
  | stray b => [b]

/-- Where no character starts, a single byte is left out, however much of a character it starts. -/
def pieces : Bytes → List Piece
  | [] => []
  | b :: rest =>
    match front b rest with
    | .char c length => .char c :: pieces (rest.drop (length - 1))
    | .illFormed .. => .stray b :: pieces rest
termination_by input => input.length

section Pieces

variable {b : UInt8} {rest : Bytes} {c : Char} {length : ℕ}

@[simp] theorem pieces_nil : pieces [] = [] := by rw [pieces]

theorem pieces_of_char (reads : front b rest = .char c length) :
    pieces (b :: rest) = .char c :: pieces (rest.drop (length - 1)) := by
  rw [pieces, reads]

theorem pieces_of_illFormed {truncated : Bool} (stops : front b rest = .illFormed length truncated) :
    pieces (b :: rest) = .stray b :: pieces rest := by
  rw [pieces, stops]

theorem flatMap_bytes_pieces (input : Bytes) : (pieces input).flatMap Piece.bytes = input := by
  fun_induction pieces input with
  | case1 => rfl
  | case2 b rest c length reads ih =>
    rw [List.flatMap_cons, ih, eq_append_of_front reads]
    rfl
  | case3 b rest length truncated stops ih =>
    rw [List.flatMap_cons, ih]
    rfl

theorem pieces_encodeChar_append (c : Char) (rest : Bytes) :
    pieces (encodeChar c ++ rest) = .char c :: pieces rest := by
  rcases front_encodeChar c rest with ⟨lead, tail, written, reads⟩
  rw [written, List.cons_append, pieces_of_char reads, Nat.add_sub_cancel, List.drop_left]

theorem pieces_encode (cs : List Char) : pieces (encode cs) = cs.map .char := by
  induction cs with
  | nil => exact pieces_nil
  | cons c cs ih => rw [encode_cons, pieces_encodeChar_append, ih, List.map_cons]

/-- A character ends what stands before it, and what stands behind it starts afresh. -/
theorem pieces_append (before : Bytes) (c : Char) (after : Bytes) :
    pieces (before ++ encodeChar c ++ after) = pieces before ++ .char c :: pieces after := by
  fun_induction pieces before with
  | case1 => rw [List.nil_append, List.nil_append, pieces_encodeChar_append]
  | case2 b rest d length reads ih =>
    rcases front_char reads with ⟨inside, -, same⟩
    have further := same (rest.drop (length - 1) ++ encodeChar c ++ after)
    rw [← List.append_assoc, ← List.append_assoc, List.take_append_drop] at further
    rw [List.cons_append, List.cons_append, pieces_of_char further, List.append_assoc,
      List.drop_append_of_le_length (by omega), ← List.append_assoc, ih, List.cons_append]
  | case3 b rest length truncated stops ih =>
    cases further : front b (rest ++ encodeChar c ++ after) with
    | illFormed n cut =>
      rw [List.cons_append, List.cons_append, pieces_of_illFormed further, ih, List.cons_append]
    | char d n =>
      -- the character would have to end before `c`, and so be there without it
      have short := length_le_of_front further
      rcases front_char further with ⟨-, -, same⟩
      have alone := same (rest.drop (n - 1))
      rw [List.append_assoc, List.take_append_of_le_length (by omega), List.take_append_drop,
        stops] at alone
      cases alone

theorem high_of_stray {input : Bytes} (stray : .stray b ∈ pieces input) : 0x80 ≤ b.toNat := by
  fun_induction pieces input with
  | case1 => cases stray
  | case2 first rest c length reads ih => exact ih (by simpa using stray)
  | case3 first rest length truncated stops ih =>
    rcases List.mem_cons.mp stray with here | later
    · cases here
      by_contra ascii
      rw [front_of_ascii (by omega)] at stops
      cases stops
    · exact ih later

theorem infix_of_char_mem {input : Bytes} (inside : .char c ∈ pieces input) :
    encodeChar c <:+: input := by
  fun_induction pieces input with
  | case1 => cases inside
  | case2 b rest d length reads ih =>
    rw [eq_append_of_front reads]
    rcases List.mem_cons.mp inside with here | later
    · cases here
      exact (List.prefix_append _ _).isInfix
    · exact (ih later).trans (List.suffix_append _ _).isInfix
  | case3 b rest length truncated stops ih =>
    exact (ih (by simpa using inside)).trans (List.suffix_cons b rest).isInfix

/-- The characters of some bytes are those that are encoded somewhere in them. -/
theorem char_mem_pieces_iff {input : Bytes} :
    .char c ∈ pieces input ↔ encodeChar c <:+: input := by
  constructor
  · exact infix_of_char_mem
  · rintro ⟨before, after, rfl⟩
    rw [pieces_append]
    exact List.mem_append_right _ List.mem_cons_self

end Pieces

end LinkCharset.Utf8
