import LinkCharset.Proofs.Utf8.Pieces

/-! # What is UTF-8, and where other bytes stop being it

Bytes are accepted just if they encode a text, which is the text that they are read as. Otherwise
they are refused at the end of the longest text in front, with the length of what stands there: the
longest part that begins some character, or the one byte that begins none. Its length is left out if
the bytes end within a character. -/
namespace LinkCharset.Utf8

/-- A first part of some character, and not the whole of it. -/
def Begins (part : Bytes) : Prop := ∃ c, part <+: encodeChar c ∧ part ≠ encodeChar c

/-- What is ill-formed at the front of some bytes. -/
structure IllFormed (left bad : Bytes) : Prop where
  isFront : bad <+: left
  ne_nil : bad ≠ []
  /-- It begins a character, or is the first byte alone. -/
  begins : Begins bad ∨ bad.length = 1
  /-- Nothing longer begins a character. -/
  longest : ∀ longer, longer <+: left → bad.length < longer.length → ∀ c, ¬ longer <+: encodeChar c
  /-- No character stands at the front. -/
  lacks : ∀ c, ¬ encodeChar c <+: left

/-- The first fault of some bytes, which follows the longest text in front of them. -/
def IsFirstFault (input : Bytes) (fault : Fault) : Prop :=
  ∃ (text : List Char) (left bad : Bytes), input = encode text ++ left ∧ IllFormed left bad ∧
    fault.validUpTo = (encode text).length ∧
      (fault.length = none ∧ bad = left ∧ Begins bad ∨
        fault.length = some bad.length ∧ ¬ (bad = left ∧ Begins bad))

section Follow

variable {value taken length : ℕ} {ranges : List Range} {rest : Bytes}

theorem length_of_truncated (stops : follow value taken ranges rest = .illFormed length true) :
    length = taken + rest.length := by
  induction ranges generalizing value taken rest with
  | nil => cases stops
  | cons r ranges ih =>
    cases rest with
    | nil =>
      cases stops
      rfl
    | cons b others =>
      rw [follow] at stops
      split at stops
      · rw [ih stops, List.length_cons, Nat.add_assoc, Nat.add_comm 1]
      · cases stops

/-- Behind the byte that does not continue a character no byte matters. -/
theorem follow_of_refused (stops : follow value taken ranges rest = .illFormed length false)
    (others : Bytes) :
    follow value taken ranges (rest.take (length - taken + 1) ++ others) = .illFormed length false := by
  induction ranges generalizing value taken rest with
  | nil => cases stops
  | cons r ranges ih =>
    cases rest with
    | nil => cases stops
    | cons b tail =>
      rw [follow] at stops
      split at stops
      · rename_i inside
        have least := (follow_illFormed stops).1
        have further : length - taken + 1 = (length - (taken + 1) + 1) + 1 := by omega
        rw [further, List.take_succ_cons, List.cons_append, follow, if_pos inside, ih stops]
      · rename_i outside
        cases stops
        rw [Nat.sub_self, List.take_succ_cons, List.cons_append, follow, if_neg outside]

/-- The least bytes that ranges allow complete a character. -/
theorem follow_least (wide : ∀ r ∈ ranges, r.1 ≤ r.2) :
    ∃ c n, follow value taken ranges (ranges.map Prod.fst) = .char c n := by
  induction ranges generalizing value taken with
  | nil => exact ⟨_, _, rfl⟩
  | cons r ranges ih =>
    rcases List.forall_mem_cons.mp wide with ⟨here, later⟩
    obtain ⟨c, n, reads⟩ : ∃ c n, follow (value * 0x40 + r.1.toNat % 0x40) (taken + 1) ranges
        (ranges.map Prod.fst) = .char c n := ih later
    exact ⟨c, n, follow_cons_iff.mpr ⟨r.1, _, rfl, ⟨UInt8.le_refl _, here⟩, reads⟩⟩

/-- What has been read of a character can be completed to one. -/
theorem exists_completion (wide : ∀ r ∈ ranges, r.1 ≤ r.2) {truncated : Bool}
    (stops : follow value taken ranges rest = .illFormed length truncated) :
    ∃ more c n, follow value taken ranges (rest.take (length - taken) ++ more) = .char c n := by
  induction ranges generalizing value taken rest with
  | nil => cases stops
  | cons r ranges ih =>
    obtain ⟨c, n, reads⟩ : ∃ c n, follow value taken (r :: ranges)
        ((r :: ranges).map Prod.fst) = .char c n := follow_least wide
    cases rest with
    | nil =>
      cases stops
      exact ⟨_, c, n, by rwa [List.take_nil, List.nil_append]⟩
    | cons b others =>
      rw [follow] at stops
      split at stops
      · rename_i inside
        have least := (follow_illFormed stops).1
        rcases ih (List.forall_mem_cons.mp wide).2 stops with ⟨more, c, n, reads⟩
        have further : length - taken = length - (taken + 1) + 1 := by omega
        refine ⟨more, c, n, ?_⟩
        rw [further, List.take_succ_cons, List.cons_append, follow, if_pos inside, reads]
      · cases stops
        exact ⟨_, c, n, by rwa [Nat.sub_self, List.take_zero, List.nil_append]⟩

end Follow

theorem owed_wide {lead : UInt8} {ranges : List Range} (owes : owed lead = some ranges) :
    ∀ r ∈ ranges, r.1 ≤ r.2 := by
  unfold owed at owes
  split_ifs at owes <;> cases owes <;> simp

section Front

variable {lead : UInt8} {rest : Bytes} {length : ℕ} {truncated : Bool}

theorem length_of_front_truncated (stops : front lead rest = .illFormed length true) :
    length = rest.length + 1 := by
  rw [front] at stops
  cases owes : owed lead with
  | none => simp [owes] at stops
  | some ranges =>
    simp only [owes] at stops
    rw [length_of_truncated stops, Nat.add_comm]

/-- No byte matters behind the one that is refused. -/
theorem front_of_refused (stops : front lead rest = .illFormed length false) (others : Bytes) :
    front lead (rest.take length ++ others) = .illFormed length false := by
  unfold front at stops ⊢
  cases owes : owed lead with
  | none => simpa [owes] using stops
  | some ranges =>
    simp only [owes] at stops ⊢
    have least := (follow_illFormed stops).1
    have same := follow_of_refused stops others
    rwa [Nat.sub_add_cancel least] at same

theorem begins_of_front (stops : front lead rest = .illFormed length truncated) :
    Begins ((lead :: rest).take length) ∨ length = 1 ∧ truncated = false := by
  rw [front] at stops
  cases owes : owed lead with
  | none =>
    simp only [owes, Front.illFormed.injEq] at stops
    exact .inr ⟨stops.1.symm, stops.2.symm⟩
  | some ranges =>
    simp only [owes] at stops
    rcases exists_completion (owed_wide owes) stops with ⟨more, c, n, completes⟩
    have reads : front lead (rest.take (length - 1) ++ more) = .char c n := by
      rw [front, owes]
      exact completes
    rcases follow_illFormed stops with ⟨least, bound, short⟩
    rcases follow_char completes with ⟨counted, enough, -⟩
    have stands : (lead :: rest).take length = lead :: rest.take (length - 1) := by
      rw [List.take_cons least]
    have written := encodeChar_of_front reads
    rw [List.take_append, List.take_of_length_le (by rw [List.length_take]; omega)] at written
    refine .inl ⟨c, ?_, fun whole => ?_⟩
    · rw [stands, written]
      exact List.prefix_append (lead :: rest.take (length - 1)) _
    · -- what stands there is shorter than the character that it begins
      have counts := congrArg List.length whole
      rw [encodeChar_of_front reads, List.length_take, List.length_cons, List.length_cons,
        List.length_take] at counts
      omega

theorem front_of_isPrefix {c : Char} (stands : encodeChar c <+: lead :: rest) :
    ∃ n, front lead rest = .char c n := by
  rcases stands with ⟨others, whole⟩
  rcases front_encodeChar c others with ⟨start, tail, written, reads⟩
  rw [written, List.cons_append] at whole
  cases whole
  exact ⟨_, reads⟩

theorem not_isPrefix_of_refused (stops : front lead rest = .illFormed length false) (c : Char) :
    ¬ lead :: rest.take length <+: encodeChar c := by
  rintro ⟨others, whole⟩
  have stands : encodeChar c <+: lead :: (rest.take length ++ others) := by
    rw [← List.cons_append, whole]
  rcases front_of_isPrefix stands with ⟨n, reads⟩
  rw [front_of_refused stops] at reads
  cases reads

theorem length_take_of_front (stops : front lead rest = .illFormed length truncated) :
    ((lead :: rest).take length).length = length := by
  rw [List.length_take, List.length_cons, Nat.min_eq_left (front_illFormed stops).1.2]

/-- What is found to be ill-formed at the front of some bytes is so. -/
theorem illFormed_of_front (stops : front lead rest = .illFormed length truncated) :
    IllFormed (lead :: rest) ((lead :: rest).take length) := by
  have counted := length_take_of_front stops
  refine ⟨List.take_prefix _ _, ?_, ?_, ?_, ?_⟩
  · have some := (front_illFormed stops).1.1
    exact List.ne_nil_of_length_pos (by omega)
  · exact (begins_of_front stops).imp_right fun alone => by rw [counted, alone.1]
  · intro longer stands further c inside
    rw [counted] at further
    cases truncated with
    | true =>
      have whole := length_of_front_truncated stops
      have short := stands.length_le
      rw [List.length_cons] at short
      omega
    | false =>
      refine not_isPrefix_of_refused stops c (List.IsPrefix.trans ?_ inside)
      rw [← List.take_succ_cons, List.prefix_iff_eq_take.mp stands]
      exact List.take_prefix_take_left (by omega)
  · intro c stands
    rcases front_of_isPrefix stands with ⟨n, reads⟩
    rw [stops] at reads
    cases reads

theorem truncated_iff (stops : front lead rest = .illFormed length truncated) :
    truncated = true ↔
      (lead :: rest).take length = lead :: rest ∧ Begins ((lead :: rest).take length) := by
  cases truncated with
  | true =>
    have whole := length_of_front_truncated stops
    refine iff_of_true rfl ⟨List.take_of_length_le (by rw [List.length_cons, whole]), ?_⟩
    exact (begins_of_front stops).resolve_right fun alone => nomatch alone.2
  | false =>
    refine iff_of_false (by simp) ?_
    rintro ⟨whole, c, inside, -⟩
    have short := congrArg List.length whole
    rw [length_take_of_front stops, List.length_cons] at short
    refine not_isPrefix_of_refused stops c ?_
    rw [List.take_of_length_le (by omega)]
    rwa [whole] at inside

end Front

namespace IllFormed

variable {left bad other : Bytes}

theorem length_le (faulty : IllFormed left bad) (faulty' : IllFormed left other) :
    other.length ≤ bad.length := by
  by_contra further
  have some := List.length_pos_of_ne_nil faulty.ne_nil
  rcases faulty'.begins with ⟨c, inside, -⟩ | alone
  · exact faulty.longest _ faulty'.isFront (by omega) c inside
  · omega

theorem unique (faulty : IllFormed left bad) (faulty' : IllFormed left other) : bad = other := by
  have same := (faulty'.length_le faulty).antisymm (faulty.length_le faulty')
  exact (List.prefix_of_prefix_length_le faulty.isFront faulty'.isFront same.le).eq_of_length same

theorem exists_front (faulty : IllFormed left bad) :
    ∃ lead rest length truncated, left = lead :: rest ∧ bad = left.take length ∧
      front lead rest = .illFormed length truncated := by
  cases left with
  | nil => exact absurd (List.prefix_nil.mp faulty.isFront) faulty.ne_nil
  | cons lead rest =>
    cases stops : front lead rest with
    | char c n => exact absurd ⟨_, (eq_append_of_front stops).symm⟩ (faulty.lacks c)
    | illFormed length truncated =>
      exact ⟨lead, rest, length, truncated, rfl, faulty.unique (illFormed_of_front stops), stops⟩

end IllFormed

/-- Any bytes are a text, or go on behind one with what is part of no character. -/
theorem text_or_fault (input : Bytes) :
    (∃ text, encode text = input) ∨ ∃ text lead rest length truncated,
      encode text ++ lead :: rest = input ∧ front lead rest = .illFormed length truncated := by
  fun_induction pieces input with
  | case1 => exact .inl ⟨[], rfl⟩
  | case2 lead rest c length reads ih =>
    rw [eq_append_of_front reads]
    rcases ih with ⟨text, whole⟩ | ⟨text, lead', rest', length', truncated, whole, stops⟩
    · exact .inl ⟨c :: text, by rw [encode_cons, whole]⟩
    · exact .inr ⟨c :: text, lead', rest', length', truncated,
        by rw [encode_cons, List.append_assoc, whole], stops⟩
  | case3 lead rest length truncated stops =>
    exact .inr ⟨[], lead, rest, length, truncated, rfl, stops⟩

theorem validate_encode_append (cs : List Char) {lead : UInt8} {rest : Bytes} {length : ℕ}
    {truncated : Bool} (stops : front lead rest = .illFormed length truncated) :
    validate (encode cs ++ lead :: rest) =
      .error ⟨(encode cs).length, if truncated then none else some length⟩ := by
  rw [validate, scan, scanFrom_encode_append, scanFrom, stops]
  simp

/-- Bytes are UTF-8 just if a text is encoded as them, and are then read as that text. -/
theorem validate_eq_ok_iff {input : Bytes} {cs : List Char} :
    validate input = .ok cs ↔ encode cs = input := by
  refine ⟨fun accepts => ?_, fun written => written ▸ validate_encode cs⟩
  rcases text_or_fault input with ⟨text, rfl⟩ | ⟨text, lead, rest, length, truncated, rfl, stops⟩
  · rw [validate_encode] at accepts
    cases accepts
    rfl
  · rw [validate_encode_append text stops] at accepts
    cases accepts

/-- Bytes are refused just for their first fault. -/
theorem validate_eq_error_iff {input : Bytes} {fault : Fault} :
    validate input = .error fault ↔ IsFirstFault input fault := by
  constructor
  · intro refuses
    rcases text_or_fault input with ⟨text, rfl⟩ | ⟨text, lead, rest, length, truncated, rfl, stops⟩
    · rw [validate_encode] at refuses
      cases refuses
    · rw [validate_encode_append text stops] at refuses
      cases refuses
      have cut := truncated_iff stops
      refine ⟨text, lead :: rest, (lead :: rest).take length, rfl, illFormed_of_front stops, rfl, ?_⟩
      cases truncated with
      | true => exact .inl ⟨rfl, cut.mp rfl⟩
      | false =>
        refine .inr ⟨?_, fun whole => nomatch cut.mpr whole⟩
        rw [length_take_of_front stops]
        rfl
  · rintro ⟨text, left, bad, rfl, faulty, offset, counted⟩
    rcases faulty.exists_front with ⟨lead, rest, length, truncated, rfl, rfl, stops⟩
    have cut := truncated_iff stops
    rw [validate_encode_append text stops, ← offset]
    rcases counted with ⟨absent, whole⟩ | ⟨present, part⟩
    · rw [cut.mpr whole, if_pos rfl, ← absent]
    · rw [length_take_of_front stops] at present
      rw [if_neg fun whole => part (cut.mp whole), ← present]

theorem firstFault_unique {input : Bytes} {fault other : Fault} (isFirst : IsFirstFault input fault)
    (isFirst' : IsFirstFault input other) : fault = other := by
  rw [← validate_eq_error_iff] at isFirst isFirst'
  rw [isFirst] at isFirst'
  exact Except.error.inj isFirst'

def IsText (input : Bytes) : Prop := ∃ text, utf8 text = input

theorem isText_iff {input : Bytes} : IsText input ↔ ∃ cs, encode cs = input := by
  constructor
  · rintro ⟨text, written⟩
    exact ⟨text.toList, written⟩
  · rintro ⟨cs, written⟩
    exact ⟨String.ofList cs, by rw [utf8, String.toList_ofList, written]⟩

theorem not_isText_iff {input : Bytes} : ¬ IsText input ↔ ∃ fault, IsFirstFault input fault := by
  simp only [isText_iff, ← validate_eq_ok_iff, ← validate_eq_error_iff]
  cases validate input with
  | ok cs => simp
  | error fault => simp

theorem isText_iff_pieces {input : Bytes} : IsText input ↔ ∀ b, .stray b ∉ pieces input := by
  rw [isText_iff]
  constructor
  · rintro ⟨cs, rfl⟩ b
    simp [pieces_encode]
  · intro clean
    have whole {list : List Piece} (none : ∀ b, .stray b ∉ list) :
        ∃ cs, encode cs = list.flatMap Piece.bytes := by
      induction list with
      | nil => exact ⟨[], rfl⟩
      | cons piece list ih =>
        rcases ih fun b later => none b (List.mem_cons_of_mem _ later) with ⟨cs, written⟩
        cases piece with
        | char c => exact ⟨c :: cs, by rw [encode_cons, written, List.flatMap_cons, Piece.bytes]⟩
        | stray b => exact absurd List.mem_cons_self (none b)
    rcases whole clean with ⟨cs, written⟩
    exact ⟨cs, by rw [written, flatMap_bytes_pieces]⟩

/-- What stands before a character and what stands behind it have nothing to do with each other. -/
theorem isText_append_encodeChar {before after : Bytes} {c : Char} :
    IsText (before ++ encodeChar c ++ after) ↔ IsText before ∧ IsText after := by
  simp only [isText_iff_pieces, pieces_append, List.mem_append, List.mem_cons, not_or,
    forall_and, reduceCtorEq, not_false_eq_true, true_and]

theorem isText_nil : IsText [] := ⟨"", rfl⟩

theorem isText_encode_append {cs : List Char} {after : Bytes} :
    IsText (encode cs ++ after) ↔ IsText after := by
  induction cs with
  | nil => rfl
  | cons c cs ih =>
    have alone : IsText ([] ++ encodeChar c ++ (encode cs ++ after)) ↔ _ := isText_append_encodeChar
    rw [List.nil_append, and_iff_right isText_nil, ih] at alone
    rwa [encode_cons, List.append_assoc]

end LinkCharset.Utf8

namespace LinkCharset

theorem utf8_injective : Function.Injective utf8 := by
  intro text other same
  have read := Utf8.validate_encode text.toList
  rw [← utf8, same, utf8, Utf8.validate_encode] at read
  exact String.toList_injective (Except.ok.inj read).symm

end LinkCharset
