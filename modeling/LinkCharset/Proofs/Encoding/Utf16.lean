import LinkCharset.Proofs.Codec.Splitting

/-! # UTF-16 behind a lone surrogate

Text in UTF-16 is read back. Of a surrogate without its counterpart one byte is copied, as of
anything malformed, and reading goes on from the byte behind it, half a unit out of step. The text
that follows is kept only if no character is met there. -/
namespace LinkCharset

theorem Utf8.ascii_of_encodeChar {c : Char} {lead : UInt8} (written : encodeChar c = [lead]) :
    c.toNat < 0x80 ∧ lead.toNat = c.toNat := by
  rw [encodeChar] at written
  by_cases ascii : c.toNat < 0x80
  · rw [if_pos ascii] at written
    cases written
    exact ⟨ascii, UInt8.toNat_ofNat_of_lt' (by change _ < 256; omega)⟩
  · rw [if_neg ascii] at written
    split_ifs at written <;> cases written

namespace Utf16

def unitBytes (order : Order) (u : Nat) : Bytes :=
  match order with
  | .little => [.ofNat (u % 0x100), .ofNat (u / 0x100)]
  | .big => [.ofNat (u / 0x100), .ofNat (u % 0x100)]

def encodeChar (order : Order) (c : Char) : Bytes :=
  let n := c.toNat
  if n < 0x10000 then unitBytes order n
  else
    unitBytes order (0xD800 + (n - 0x10000) / 0x400) ++
      unitBytes order (0xDC00 + (n - 0x10000) % 0x400)

def encode (order : Order) (cs : List Char) : Bytes := cs.flatMap (encodeChar order)

def isSurrogate (u : Nat) : Bool := isHigh u || isLow u

section Reading

variable {order : Order} {b second third fourth : UInt8}

theorem unit_lt (order : Order) (first second : UInt8) : unit order first second < 0x10000 := by
  have := first.toNat_lt
  have := second.toNat_lt
  cases order <;> simp only [unit] <;> omega

theorem read_of_plain (plain : isSurrogate (unit order b second) = false) (rest : Bytes) :
    read order b (second :: rest) = .char (Char.ofNat (unit order b second)) 2 := by
  rcases Bool.or_eq_false_iff.mp plain with ⟨high, low⟩
  simp [read, high, low]

theorem read_of_pair (high : isHigh (unit order b second) = true)
    (low : isLow (unit order third fourth) = true) (rest : Bytes) :
    read order b (second :: third :: fourth :: rest) =
      .char (combine (unit order b second) (unit order third fourth)) 4 := by
  simp [read, high, readLow, low]

theorem toNat_of_plain (plain : isSurrogate (unit order b second) = false) :
    (Char.ofNat (unit order b second)).toNat = unit order b second := by
  have small := unit_lt order b second
  simp only [isSurrogate, isHigh, isLow, Bool.or_eq_false_iff, Bool.and_eq_false_iff,
    decide_eq_false_iff_not] at plain
  exact Utf8.toNat_ofNat (by unfold Nat.isValidChar; omega)

theorem read_of_surrogate (surrogate : isSurrogate (unit order b second) = true) {rest : Bytes}
    (alone : isHigh (unit order b second) = true → ∀ third fourth more,
      rest = third :: fourth :: more → isLow (unit order third fourth) = false) :
    ∃ bad extra, read order b (second :: rest) = .malformed bad extra () := by
  by_cases high : isHigh (unit order b second) = true
  · match rest with
    | [] => exact ⟨2, 0, by simp [read, high, readLow, Reading.bad]⟩
    | [third] => exact ⟨3, 0, by simp [read, high, readLow, Reading.bad]⟩
    | third :: fourth :: more =>
      have low := alone high third fourth more rfl
      exact ⟨2, 2, by simp [read, high, readLow, low]⟩
  · have low : isLow (unit order b second) = true := by simpa [isSurrogate, high] using surrogate
    exact ⟨2, 0, by simp [read, high, low, Reading.bad]⟩

theorem le_toNat_combine {high low : ℕ} (isHigh : isHigh high = true) (isLow : isLow low = true) :
    0x10000 ≤ (combine high low).toNat := by
  simp only [Utf16.isHigh, Utf16.isLow, Bool.and_eq_true, decide_eq_true_eq] at isHigh isLow
  rw [combine, Utf8.toNat_ofNat (.inr (by omega))]
  omega

/-- What is read as text is one character, of a single unit or beyond the first plane. -/
theorem char_of_read {rest : Bytes} {chars : List Char} {length : ℕ} {next : Unit}
    (reads : read order b rest = .text chars length next) :
    ∃ c second more, chars = [c] ∧ rest = second :: more ∧
      (c.toNat = unit order b second ∨ 0x10000 ≤ c.toNat) := by
  match rest with
  | [] => cases reads
  | second :: more =>
    cases surrogate : isSurrogate (unit order b second) with
    | false =>
      rw [read_of_plain surrogate] at reads
      cases reads
      exact ⟨_, second, more, rfl, rfl, .inl (toNat_of_plain surrogate)⟩
    | true =>
      by_cases pair : isHigh (unit order b second) = true ∧ ∃ third fourth rest,
          more = third :: fourth :: rest ∧ isLow (unit order third fourth) = true
      · obtain ⟨high, third, fourth, rest, rfl, low⟩ := pair
        rw [read_of_pair high low] at reads
        cases reads
        exact ⟨_, second, _, rfl, rfl, .inr (le_toNat_combine high low)⟩
      · have alone : isHigh (unit order b second) = true → ∀ third fourth rest,
            more = third :: fourth :: rest → isLow (unit order third fourth) = false := by
          intro high third fourth rest follows
          by_contra low
          exact pair ⟨high, third, fourth, rest, follows, by simpa using low⟩
        rcases read_of_surrogate surrogate alone with ⟨bad, extra, malformed⟩
        rw [malformed] at reads
        cases reads

end Reading

section Units

theorem exists_unitBytes (order : Order) {u : ℕ} (small : u < 0x10000) :
    ∃ first second, unitBytes order u = [first, second] ∧ unit order first second = u := by
  have high : (UInt8.ofNat (u / 0x100)).toNat = u / 0x100 :=
    UInt8.toNat_ofNat_of_lt' (by change _ < 256; omega)
  have low : (UInt8.ofNat (u % 0x100)).toNat = u % 0x100 :=
    UInt8.toNat_ofNat_of_lt' (by change _ < 256; omega)
  cases order with
  | little => exact ⟨_, _, rfl, by rw [unit, high, low]; omega⟩
  | big => exact ⟨_, _, rfl, by rw [unit, high, low]; omega⟩

theorem combine_eq {c : Char} (beyond : 0x10000 ≤ c.toNat) :
    combine (0xD800 + (c.toNat - 0x10000) / 0x400) (0xDC00 + (c.toNat - 0x10000) % 0x400) = c := by
  have value : 0x10000 + 0x400 * (0xD800 + (c.toNat - 0x10000) / 0x400 - 0xD800) +
      (0xDC00 + (c.toNat - 0x10000) % 0x400 - 0xDC00) = c.toNat := by omega
  rw [combine, value, Char.ofNat_toNat]

theorem read_encodeChar (order : Order) (c : Char) (rest : Bytes) :
    ∃ first second more, encodeChar order c = first :: second :: more ∧
      isLow (unit order first second) = false ∧
      read order first (second :: more ++ rest) = .char c (more.length + 2) := by
  have valid : c.toNat < 0xD800 ∨ 0xDFFF < c.toNat ∧ c.toNat < 0x110000 := c.valid
  rw [encodeChar]
  by_cases plane : c.toNat < 0x10000
  · rw [if_pos plane]
    obtain ⟨first, second, bytes, whole⟩ := exists_unitBytes order plane
    have plain : isSurrogate (unit order first second) = false := by
      rw [whole]
      simp [isSurrogate, isHigh, isLow]
      omega
    refine ⟨first, second, [], bytes, (Bool.or_eq_false_iff.mp plain).2, ?_⟩
    rw [List.cons_append, read_of_plain plain, whole, Char.ofNat_toNat]
    rfl
  · rw [if_neg plane]
    obtain ⟨first, second, bytes, whole⟩ :=
      exists_unitBytes order (show 0xD800 + (c.toNat - 0x10000) / 0x400 < 0x10000 by omega)
    obtain ⟨third, fourth, bytes', whole'⟩ :=
      exists_unitBytes order (show 0xDC00 + (c.toNat - 0x10000) % 0x400 < 0x10000 by omega)
    have high : isHigh (unit order first second) = true := by
      simp [whole, isHigh]
      omega
    have notLow : isLow (unit order first second) = false := by
      simp [whole, isLow]
      omega
    have low : isLow (unit order third fourth) = true := by
      simp [whole', isLow]
      omega
    refine ⟨first, second, [third, fourth], by rw [bytes, bytes']; rfl, notLow, ?_⟩
    rw [List.cons_append, List.cons_append, List.cons_append, read_of_pair high low, whole, whole',
      combine_eq (by omega)]
    rfl

theorem not_isLow_of_encode {order : Order} {cs : List Char} {first second : UInt8} {more : Bytes}
    (starts : encode order cs = first :: second :: more) : isLow (unit order first second) = false := by
  cases cs with
  | nil => cases starts
  | cons c cs =>
    rcases read_encodeChar order c [] with ⟨_, _, _, bytes, low, -⟩
    rw [encode, List.flatMap_cons, bytes] at starts
    cases starts
    exact low

end Units

section Decoding

variable {order : Order} {b : UInt8} {rest : Bytes}

theorem made_encode (order : Order) (cs : List Char) (rest : Bytes) :
    (decoder order).made (decoder order).start (encode order cs ++ rest) =
      .converted (Utf8.encode cs) ++ (decoder order).made (decoder order).start rest := by
  induction cs with
  | nil => rfl
  | cons c cs ih =>
    rcases read_encodeChar order c (encode order cs ++ rest) with
      ⟨first, second, more, bytes, -, reads⟩
    have text : (decoder order).read (decoder order).start first
        (second :: more ++ (encode order cs ++ rest)) =
          .text [c] (more.length + 2) (decoder order).start := reads
    have behind : (second :: more ++ (encode order cs ++ rest)).drop (more.length + 2 - 1) =
        encode order cs ++ rest := List.drop_left
    change (decoder order).made _ (encodeChar order c ++ encode order cs ++ rest) = _
    rw [List.append_assoc, bytes, List.cons_append, Decoder.made_of_text text, behind, ih, Utf8.encode_cons,
      Utf8.encode_cons, Utf8.encode_nil, List.append_nil, Marked.converted_append, List.append_assoc]

/-- Of anything malformed the first byte is copied, and the next is read as the first of a unit. -/
theorem made_of_malformed {bad extra : ℕ} (reads : read order b rest = .malformed bad extra ()) :
    (decoder order).made (decoder order).start (b :: rest) =
      (b, true) :: (decoder order).made (decoder order).start rest := by
  have malformed : (decoder order).read (decoder order).start b rest =
      .malformed bad extra (decoder order).start := reads
  rw [Decoder.made_of_malformed malformed, Decoder.resume, ite_self]

theorem made_surrogate {a : UInt8} (surrogate : isSurrogate (unit order a b) = true)
    (ys : List Char) :
    (decoder order).made (decoder order).start (a :: b :: encode order ys) =
      (a, true) :: (decoder order).made (decoder order).start (b :: encode order ys) := by
  have alone : isHigh (unit order a b) = true → ∀ third fourth more,
      encode order ys = third :: fourth :: more → isLow (unit order third fourth) = false :=
    fun _ _ _ _ => not_isLow_of_encode
  rcases read_of_surrogate surrogate alone with ⟨bad, extra, malformed⟩
  exact made_of_malformed malformed

/-- Where no character is met half a unit out of step, the next byte is copied too, and what follows
is in step again. -/
theorem made_of_unread (ys : List Char)
    (unread : ∀ chars length next, read order b (encode order ys) ≠ .text chars length next) :
    (decoder order).made (decoder order).start (b :: encode order ys) =
      (b, true) :: Marked.converted (Utf8.encode ys) := by
  have local_ := isLocal_read order b (encode order ys)
  cases reads : read order b (encode order ys) with
  | text chars length next => exact absurd reads (unread chars length next)
  | overdue bad extra earlier next =>
    rw [reads] at local_
    exact local_.elim
  | malformed bad extra next =>
    have whole := made_encode order ys []
    rw [List.append_nil, Decoder.made_nil, List.append_nil] at whole
    rw [made_of_malformed reads, whole]

/-- A character other than NUL that is met out of step is not the text that was to come. -/
theorem bytes_ne_of_read {a : UInt8} (surrogate : isSurrogate (unit order a b) = true)
    {ys : List Char} {c : Char} {length : ℕ} (reads : read order b (encode order ys) = .char c length)
    (some : c ≠ '\x00') :
    ((decoder order).made (decoder order).start (b :: encode order ys)).bytes ≠
      b :: Utf8.encode ys := by
  intro same
  have text : (decoder order).read (decoder order).start b (encode order ys) =
      .text [c] length (decoder order).start := reads
  rw [Decoder.made_of_text text, Marked.bytes_append, Marked.bytes_converted, Utf8.encode_cons,
    Utf8.encode_nil, List.append_nil] at same
  rcases char_of_read reads with ⟨_, second, more, single, follows, shape⟩
  cases single
  rcases Utf8.front_encodeChar c [] with ⟨lead, tail, written, -⟩
  rw [written, List.cons_append, List.cons.injEq] at same
  rcases same with ⟨rfl, same⟩
  cases tail with
  | nil =>
    -- an ASCII character of a unit that starts with its code is NUL
    rcases Utf8.ascii_of_encodeChar written with ⟨ascii, value⟩
    have whole : c.toNat = unit order lead second := shape.resolve_right (by omega)
    have code : c.toNat = 0 := by
      simp only [isSurrogate, isHigh, isLow, Bool.or_eq_true, Bool.and_eq_true,
        decide_eq_true_eq] at surrogate
      have small := a.toNat_lt
      cases order <;> simp only [unit] at whole surrogate <;> omega
    exact some (by rw [← Char.ofNat_toNat c, code])
  | cons byte tail =>
    have continues := Utf8.continues_of_mem_tail (c := c) (b := byte) (by simp [written])
    cases ys with
    | nil => cases follows
    | cons d ys =>
      rcases Utf8.front_encodeChar d [] with ⟨start, others, written', starts⟩
      rw [Utf8.encode_cons, written', List.cons_append, List.cons_append, List.cons.injEq] at same
      rw [← same.1] at starts
      have starts := Utf8.front_cases starts
      omega

end Decoding

/-- Of a lone surrogate in a UTF-16 text the first byte is copied, and what follows that byte is
read as if it stood alone, half a unit out of step. Where no character is met there, as behind the
end of the text, the second byte is copied too and the text that follows is kept; where a character
other than NUL is met, it is not. -/
theorem text_behind_surrogate (order : Order) {a b : UInt8}
    (surrogate : isSurrogate (unit order a b) = true) (xs ys : List Char) :
    (∀ source target, Encoding.ofLabel? source = some (.utf16 order) →
      Encoding.ofLabel? target = some .utf8 →
        WebSession.open? source target =
          .ok (.openedDecoder (Encoding.utf16 order).name, .decoding (.utf16 order))) ∧
    ∃ behind copied : Bytes,
      (transcode webCodec (.decoding (.utf16 order)) (b :: encode order ys)).result =
        .ok ⟨behind ++ [0]⟩ ∧
      (transcode webCodec (.decoding (.utf16 order)) (b :: encode order ys)).trace.copiedBytes =
        copied ∧
      (transcode webCodec (.decoding (.utf16 order))
          (encode order xs ++ [a, b] ++ encode order ys)).result =
        .ok ⟨Utf8.encode xs ++ a :: behind ++ [0]⟩ ∧
      (transcode webCodec (.decoding (.utf16 order))
          (encode order xs ++ [a, b] ++ encode order ys)).trace.copiedBytes = a :: copied ∧
      ((∀ chars length next, read order b (encode order ys) ≠ .text chars length next) →
        behind = b :: Utf8.encode ys ∧ copied = [b]) ∧
      ∀ c length, read order b (encode order ys) = .char c length → c ≠ '\x00' →
        behind ≠ b :: Utf8.encode ys := by
  let made (input : Bytes) : Marked := (decoder order).made (decoder order).start input
  have transcoded (input : Bytes) :
      (transcode webCodec (.decoding (.utf16 order)) input).result =
          .ok ⟨(made input).bytes ++ [0]⟩ ∧
        (transcode webCodec (.decoding (.utf16 order)) input).trace.copiedBytes =
          (made input).copied := WebSession.transcode_decoding (.utf16 order) input
  have whole : made (encode order xs ++ [a, b] ++ encode order ys) =
      .converted (Utf8.encode xs) ++ (a, true) :: made (b :: encode order ys) := by
    rw [List.append_assoc]
    exact (made_encode order xs _).trans (congrArg _ (made_surrogate surrogate ys))
  rcases transcoded (encode order xs ++ [a, b] ++ encode order ys) with ⟨result, copied⟩
  rw [whole] at result copied
  refine ⟨fun _ _ => WebSession.open?_of_labels, _, _, (transcoded _).1, (transcoded _).2,
    ?_, ?_, ?_, ?_⟩
  · rw [result, Marked.bytes_append, Marked.bytes_converted, Marked.bytes_cons]
  · rw [copied, Marked.copied_append, Marked.copied_converted, Marked.copied_cons, List.nil_append]
  · intro unread
    have kept : made (b :: encode order ys) = (b, true) :: Marked.converted (Utf8.encode ys) :=
      made_of_unread ys unread
    rw [kept, Marked.bytes_cons, Marked.copied_cons, Marked.bytes_converted, Marked.copied_converted]
    exact ⟨rfl, rfl⟩
  · intro c length reads some
    exact bytes_ne_of_read surrogate reads some

/-- A high surrogate before two letters, of which the first makes a low one with its second byte,
and before one that makes a character with it. -/
theorem text_behind_surrogate_letters :
    isSurrogate (unit .little 0x00 0xD8) = true ∧
    (transcode webCodec (.decoding (.utf16 .little))
        [0x61, 0x00, 0x00, 0xD8, 0xDC, 0x00, 0x62, 0x00]).result =
      .ok ⟨[0x61, 0x00, 0xD8, 0xC3, 0x9C, 0x62, 0]⟩ ∧
    ∃ behind : Bytes, behind ≠ [0xD8, 0x62] ∧
      (transcode webCodec (.decoding (.utf16 .little)) [0x61, 0x00, 0x00, 0xD8, 0x62, 0x00]).result =
        .ok ⟨[0x61, 0x00] ++ behind ++ [0]⟩ := by
  have surrogate : isSurrogate (unit .little 0x00 0xD8) = true := by decide
  refine ⟨surrogate, ?_, ?_⟩
  · rcases text_behind_surrogate .little surrogate ['a'] ['Ü', 'b'] with
      ⟨-, behind, copied, -, -, result, -, kept, -⟩
    have unread : ∀ chars length next,
        read .little 0xD8 (encode .little ['Ü', 'b']) ≠ .text chars length next := by
      intro chars length next reads
      cases reads
    rw [(kept unread).1] at result
    exact result
  · rcases text_behind_surrogate .little surrogate ['a'] ['b'] with
      ⟨-, behind, copied, -, -, result, -, -, lost⟩
    exact ⟨behind, lost (Char.ofNat 0x62D8) 2 (by rfl) (by decide), result⟩

/-- It is not so that the text behind a lone surrogate is always kept. -/
theorem text_behind_surrogate_is_not_kept :
    ¬ ∀ (order : Order) (a b : UInt8) (xs ys : List Char), isSurrogate (unit order a b) = true →
      (transcode webCodec (.decoding (.utf16 order))
          (encode order xs ++ [a, b] ++ encode order ys)).result =
        .ok ⟨Utf8.encode xs ++ [a, b] ++ Utf8.encode ys ++ [0]⟩ := by
  intro kept
  have surrogate : isSurrogate (unit .little 0x00 0xD8) = true := by decide
  have reads : read .little 0xD8 (encode .little ['a']) = .char (Char.ofNat 0x61D8) 2 := by rfl
  have made : ((decoder .little).made (decoder .little).start
      (0x00 :: 0xD8 :: encode .little ['a'])).bytes = 0x00 :: 0xD8 :: Utf8.encode ['a'] :=
    WebSession.bytes_made_of_result (kept .little 0x00 0xD8 [] ['a'] surrogate)
  rw [made_surrogate surrogate, Marked.bytes_cons, List.cons.injEq] at made
  exact bytes_ne_of_read surrogate reads (by decide) made.2

end Utf16

end LinkCharset
