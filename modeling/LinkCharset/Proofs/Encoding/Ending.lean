import LinkCharset.Proofs.Codec.Encoding

/-! # How an encoding ends

A text is closed only where encoding comes to its end. A last byte that is copied as it is ends a
run as well, and then the encoder is left in the state that it is in. -/
namespace LinkCharset.Encoder

/-- The state that the last item of an input leaves, and whether the text is then closed. -/
structure Ending (State : Type) where
  state : State
  isClosed : Bool

variable (e : Encoder)

def ending (state : e.State) : Bytes → Ending e.State
  | [] => ⟨state, true⟩
  | b :: rest =>
    match Utf8.front b rest with
    | .illFormed _ _ => if rest = [] then ⟨state, false⟩ else ending state rest
    | .char c length =>
      match e.bytes? (e.shifted state c).2 c with
      | none => if rest = [] then ⟨(e.shifted state c).2, false⟩ else ending (e.shifted state c).2 rest
      | some _ => ending (e.shifted state c).2 (rest.drop (length - 1))
termination_by input => input.length

def Encodes (c : Char) : Prop := ∀ state : e.State, (e.bytes? (e.shifted state c).2 c).isSome

def EndsEncoded (input : Bytes) : Prop :=
  ∃ (before : Bytes) (c : Char) (state : e.State),
    input = before ++ Utf8.encodeChar c ∧ (e.bytes? (e.shifted state c).2 c).isSome

section Ending

variable {e} {state : e.State} {b : UInt8} {rest : Bytes} {c : Char} {length : ℕ}

theorem ending_of_illFormed {truncated : Bool} (stops : Utf8.front b rest = .illFormed length truncated)
    (goesOn : rest ≠ []) : e.ending state (b :: rest) = e.ending state rest := by
  rw [ending, stops]
  exact if_neg goesOn

theorem ending_of_unmappable (reads : Utf8.front b rest = .char c length)
    (lacks : e.bytes? (e.shifted state c).2 c = none) (goesOn : rest ≠ []) :
    e.ending state (b :: rest) = e.ending (e.shifted state c).2 rest := by
  rw [ending, reads]
  simp only [lacks]
  exact if_neg goesOn

theorem ending_of_char (reads : Utf8.front b rest = .char c length)
    (has : (e.bytes? (e.shifted state c).2 c).isSome) :
    e.ending state (b :: rest) = e.ending (e.shifted state c).2 (rest.drop (length - 1)) := by
  rcases Option.isSome_iff_exists.mp has with ⟨bytes, has⟩
  rw [ending, reads]
  simp only [has]

/-- Encoding goes on behind a character that can be encoded in the state that it calls for, whatever
stands before it. -/
theorem ending_append (encodes : e.Encodes c) (before after : Bytes) (state : e.State) :
    ∃ held, e.ending state (before ++ Utf8.encodeChar c ++ after) =
      e.ending (e.shifted held c).2 after := by
  rcases Utf8.front_encodeChar c after with ⟨lead, tail, written, reads⟩
  have goesOn (before : Bytes) : before ++ Utf8.encodeChar c ++ after ≠ [] := by
    rw [written]
    simp
  match before with
  | [] =>
    refine ⟨state, ?_⟩
    rw [List.nil_append, written, List.cons_append, ending_of_char reads (encodes state),
      Nat.add_sub_cancel, List.drop_left]
  | b :: before =>
    cases stops : Utf8.front b (before ++ Utf8.encodeChar c ++ after) with
    | illFormed length truncated =>
      rw [List.cons_append, List.cons_append, ending_of_illFormed stops (goesOn before)]
      exact ending_append encodes before after state
    | char d length =>
      rw [List.cons_append, List.cons_append]
      cases has : e.bytes? (e.shifted state d).2 d with
      | none =>
        rw [ending_of_unmappable stops has (goesOn before)]
        exact ending_append encodes before after _
      | some bytes =>
        have short : length - 1 ≤ before.length := by
          have bound := Utf8.length_le_of_front stops
          omega
        rw [ending_of_char stops (by rw [has]; rfl), List.append_assoc, List.drop_append_of_le_length short,
          ← List.append_assoc]
        exact ending_append encodes (before.drop (length - 1)) after _
termination_by before.length

theorem EndsEncoded.append (ends : e.EndsEncoded rest) (front : Bytes) :
    e.EndsEncoded (front ++ rest) := by
  rcases ends with ⟨before, c, state, rfl, has⟩
  exact ⟨front ++ before, c, state, by rw [List.append_assoc], has⟩

theorem endsEncoded_of_isClosed {input : Bytes} (closed : (e.ending state input).isClosed) :
    input = [] ∨ e.EndsEncoded input := by
  fun_induction ending e state input with
  | case1 state => exact .inl rfl
  | case2 state b length truncated stops => cases closed
  | case3 state b rest length truncated stops goesOn ih =>
    exact .inr (((ih closed).resolve_left goesOn).append [b])
  | case4 state b c length lacks reads => cases closed
  | case5 state b rest c length reads lacks goesOn ih =>
    exact .inr (((ih closed).resolve_left goesOn).append [b])
  | case6 state b rest c length reads bytes has ih =>
    have written := Utf8.encodeChar_of_front reads
    have split : b :: rest = Utf8.encodeChar c ++ rest.drop (length - 1) := by
      rw [written, List.cons_append, List.take_append_drop]
    rw [split]
    right
    rcases ih closed with ended | ends
    · rw [ended, List.append_nil]
      exact ⟨[], c, state, rfl, by rw [has]; rfl⟩
    · exact ends.append _

/-- Where a text is not closed, the last byte of the input has been copied, and nothing comes
behind. -/
theorem made_of_not_closed {input : Bytes} (unclosed : (e.ending state input).isClosed = false) :
    ∃ (before : Bytes) (produced : Marked) (b : UInt8),
      input = before ++ [b] ∧ e.made state input = produced ++ [(b, true)] := by
  fun_induction ending e state input with
  | case1 state => cases unclosed
  | case2 state b length truncated stops =>
    exact ⟨[], [], b, rfl, made_of_illFormed stops⟩
  | case3 state b rest length truncated stops goesOn ih =>
    rcases ih unclosed with ⟨before, produced, last, rfl, made⟩
    refine ⟨b :: before, (b, true) :: produced, last, rfl, ?_⟩
    rw [made_of_illFormed stops, afterCopy, if_neg goesOn, made]
    rfl
  | case4 state b c length lacks reads =>
    exact ⟨[], .converted (e.shifted state c).1, b, rfl,
      made_of_unmappable reads Prod.mk.eta.symm lacks⟩
  | case5 state b rest c length reads lacks goesOn ih =>
    rcases ih unclosed with ⟨before, produced, last, rfl, made⟩
    refine ⟨b :: before, .converted (e.shifted state c).1 ++ (b, true) :: produced, last, rfl, ?_⟩
    rw [made_of_unmappable reads Prod.mk.eta.symm lacks, afterCopy, if_neg goesOn, made,
      List.append_assoc]
    rfl
  | case6 state b rest c length reads bytes has ih =>
    rcases ih unclosed with ⟨before, produced, last, behind, made⟩
    refine ⟨b :: (rest.take (length - 1) ++ before),
      .converted ((e.shifted state c).1 ++ bytes) ++ produced, last, ?_, ?_⟩
    · rw [List.cons_append, List.append_assoc, ← behind, List.take_append_drop]
    · rw [made_of_char reads Prod.mk.eta.symm has, made, List.append_assoc]

end Ending

end LinkCharset.Encoder
