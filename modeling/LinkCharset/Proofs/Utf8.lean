import LinkCharset.Utf8
import Mathlib.Tactic

/-! # Characters read back

The character at the front of some bytes is settled by its own bytes, which are the ones that it is
encoded as; so what has been encoded is read back, whatever follows it. -/
namespace LinkCharset.Utf8

theorem toNat_ofNat {n : ℕ} (valid : n.isValidChar) : (Char.ofNat n).toNat = n := by
  rw [Char.ofNat, dif_pos valid]
  rfl

theorem follow_nil_iff {value taken length : ℕ} {rest : Bytes} {c : Char} :
    follow value taken [] rest = .char c length ↔ c = Char.ofNat value ∧ length = taken := by
  rw [follow, Front.char.injEq, eq_comm, @eq_comm _ taken]

theorem follow_cons_iff {value taken length : ℕ} {r : Range} {ranges : List Range} {rest : Bytes}
    {c : Char} :
    follow value taken (r :: ranges) rest = .char c length ↔
      ∃ (b : UInt8) (others : Bytes), rest = b :: others ∧ (r.1 ≤ b ∧ b ≤ r.2) ∧
        follow (value * 0x40 + b.toNat % 0x40) (taken + 1) ranges others = .char c length := by
  cases rest with
  | nil => simp [follow]
  | cons b others =>
    by_cases inside : r.1 ≤ b ∧ b ≤ r.2
    · simp [follow, inside]
    · simp [follow, inside]

/-- A character takes one byte for each range, and no byte behind them matters. -/
theorem follow_char {value taken length : ℕ} {ranges : List Range} {rest : Bytes} {c : Char}
    (reads : follow value taken ranges rest = .char c length) :
    length = taken + ranges.length ∧ ranges.length ≤ rest.length ∧
      ∀ others, follow value taken ranges (rest.take ranges.length ++ others) = .char c length := by
  induction ranges generalizing value taken rest with
  | nil =>
    rcases follow_nil_iff.mp reads with ⟨rfl, rfl⟩
    exact ⟨rfl, Nat.zero_le _, fun others => rfl⟩
  | cons r ranges ih =>
    rcases follow_cons_iff.mp reads with ⟨b, tail, rfl, inside, reads⟩
    rcases ih reads with ⟨counted, bound, same⟩
    refine ⟨by rw [counted, List.length_cons]; omega, Nat.succ_le_succ bound, fun others => ?_⟩
    exact follow_cons_iff.mpr ⟨b, _, rfl, inside, same others⟩

/-- A subpart that is no character ends within the bytes, before the last range is met. -/
theorem follow_illFormed {value taken length : ℕ} {ranges : List Range} {rest : Bytes}
    {truncated : Bool} (stops : follow value taken ranges rest = .illFormed length truncated) :
    taken ≤ length ∧ length ≤ taken + rest.length ∧ length < taken + ranges.length := by
  induction ranges generalizing value taken rest with
  | nil => cases stops
  | cons r ranges ih =>
    cases rest with
    | nil =>
      cases stops
      simp
    | cons b others =>
      rw [follow] at stops
      split at stops
      · rcases ih stops with ⟨least, bound, short⟩
        simp only [List.length_cons]
        omega
      · cases stops
        simp

/-! The four classes of lead bytes, by the length of the characters that they start. -/

theorem owed_of_ascii {lead : UInt8} (class1 : lead.toNat < 0x80) : owed lead = some [] := by
  rw [owed, if_pos (UInt8.lt_iff_toNat_lt.mpr class1)]

theorem owed_of_two {lead : UInt8} (class2 : 0xC2 ≤ lead.toNat ∧ lead.toNat < 0xE0) :
    owed lead = some [(0x80, 0xBF)] := by
  simp only [owed, UInt8.lt_iff_toNat_lt, UInt8.toNat_ofNat]
  rw [if_neg (by omega), if_neg (by omega), if_pos (by omega)]

theorem owed_of_three {lead : UInt8} (class3 : 0xE0 ≤ lead.toNat ∧ lead.toNat < 0xF0) :
    owed lead = some [(if lead.toNat = 0xE0 then 0xA0 else 0x80,
      if lead.toNat = 0xED then 0x9F else 0xBF), (0x80, 0xBF)] := by
  simp only [owed, UInt8.lt_iff_toNat_lt, ← UInt8.toNat_inj, UInt8.toNat_ofNat]
  rw [if_neg (by omega), if_neg (by omega), if_neg (by omega)]
  split_ifs <;> first | rfl | omega

theorem owed_of_four {lead : UInt8} (class4 : 0xF0 ≤ lead.toNat ∧ lead.toNat ≤ 0xF4) :
    owed lead = some [(if lead.toNat = 0xF0 then 0x90 else 0x80,
      if lead.toNat = 0xF4 then 0x8F else 0xBF), (0x80, 0xBF), (0x80, 0xBF)] := by
  simp only [owed, UInt8.lt_iff_toNat_lt, ← UInt8.toNat_inj, UInt8.toNat_ofNat]
  rw [if_neg (by omega), if_neg (by omega), if_neg (by omega), if_neg (by omega), if_neg (by omega),
    if_neg (by omega)]
  split_ifs <;> first | rfl | omega

theorem owed_cases {lead : UInt8} {ranges : List Range} (owes : owed lead = some ranges) :
    lead.toNat < 0x80 ∨ (0xC2 ≤ lead.toNat ∧ lead.toNat < 0xE0) ∨
      (0xE0 ≤ lead.toNat ∧ lead.toNat < 0xF0) ∨ (0xF0 ≤ lead.toNat ∧ lead.toNat ≤ 0xF4) := by
  by_contra outside
  have lacks : owed lead = none := by
    simp only [owed, UInt8.lt_iff_toNat_lt, ← UInt8.toNat_inj, UInt8.toNat_ofNat]
    rw [if_neg (by omega)]
    by_cases low : lead.toNat < 0xC2
    · rw [if_pos low]
    · rw [if_neg low, if_neg (by omega), if_neg (by omega), if_neg (by omega), if_neg (by omega),
        if_neg (by omega), if_neg (by omega), if_neg (by omega)]
  rw [lacks] at owes
  cases owes

theorem length_owed {lead : UInt8} {ranges : List Range} (owes : owed lead = some ranges) :
    ranges.length ≤ 3 := by
  rcases owed_cases owes with class1 | class2 | class3 | class4
  · rw [owed_of_ascii class1] at owes
    cases owes
    simp
  · rw [owed_of_two class2] at owes
    cases owes
    simp
  · rw [owed_of_three class3] at owes
    cases owes
    simp
  · rw [owed_of_four class4] at owes
    cases owes
    simp

theorem payload_of_ascii {lead : UInt8} (class1 : lead.toNat < 0x80) :
    payload lead = lead.toNat := by
  rw [payload, if_pos (UInt8.lt_iff_toNat_lt.mpr class1)]

theorem payload_of_two {lead : UInt8} (class2 : 0xC2 ≤ lead.toNat ∧ lead.toNat < 0xE0) :
    payload lead = lead.toNat - 0xC0 := by
  simp only [payload, UInt8.lt_iff_toNat_lt, UInt8.toNat_ofNat]
  rw [if_neg (by omega), if_pos (by omega)]
  omega

theorem payload_of_three {lead : UInt8} (class3 : 0xE0 ≤ lead.toNat ∧ lead.toNat < 0xF0) :
    payload lead = lead.toNat - 0xE0 := by
  simp only [payload, UInt8.lt_iff_toNat_lt, UInt8.toNat_ofNat]
  rw [if_neg (by omega), if_neg (by omega), if_pos (by omega)]
  omega

theorem payload_of_four {lead : UInt8} (class4 : 0xF0 ≤ lead.toNat ∧ lead.toNat ≤ 0xF4) :
    payload lead = lead.toNat - 0xF0 := by
  simp only [payload, UInt8.lt_iff_toNat_lt, UInt8.toNat_ofNat]
  rw [if_neg (by omega), if_neg (by omega), if_neg (by omega)]
  omega

section Front

variable {lead : UInt8} {rest : Bytes} {c : Char} {length : ℕ}

theorem front_char (reads : front lead rest = .char c length) :
    (1 ≤ length ∧ length ≤ rest.length + 1) ∧ length ≤ 4 ∧
      ∀ others, front lead (rest.take (length - 1) ++ others) = .char c length := by
  unfold front at reads ⊢
  cases owes : owed lead with
  | none => simp [owes] at reads
  | some ranges =>
    simp only [owes] at reads ⊢
    rcases follow_char reads with ⟨counted, bound, same⟩
    have few := length_owed owes
    have least : length - 1 = ranges.length := by omega
    rw [least]
    exact ⟨by omega, by omega, same⟩

theorem front_illFormed {truncated : Bool}
    (stops : front lead rest = .illFormed length truncated) :
    (1 ≤ length ∧ length ≤ rest.length + 1) ∧ length ≤ 3 := by
  rw [front] at stops
  cases owes : owed lead with
  | none =>
    simp only [owes, Front.illFormed.injEq] at stops
    omega
  | some ranges =>
    simp only [owes] at stops
    have few := length_owed owes
    have bounds := follow_illFormed stops
    omega

end Front

/-! How a character that starts with a byte of each class is read. -/

theorem front_of_ascii {lead : UInt8} (class1 : lead.toNat < 0x80) (rest : Bytes) :
    front lead rest = .char (Char.ofNat lead.toNat) 1 := by
  rw [front, owed_of_ascii class1, payload_of_ascii class1]
  rfl

theorem front_of_two {lead : UInt8} (class2 : 0xC2 ≤ lead.toNat ∧ lead.toNat < 0xE0)
    (rest : Bytes) : front lead rest = follow (lead.toNat - 0xC0) 1 [(0x80, 0xBF)] rest := by
  rw [front, owed_of_two class2, payload_of_two class2]

theorem front_of_three {lead : UInt8} (class3 : 0xE0 ≤ lead.toNat ∧ lead.toNat < 0xF0)
    (rest : Bytes) :
    front lead rest = follow (lead.toNat - 0xE0) 1 [(if lead.toNat = 0xE0 then 0xA0 else 0x80,
      if lead.toNat = 0xED then 0x9F else 0xBF), (0x80, 0xBF)] rest := by
  rw [front, owed_of_three class3, payload_of_three class3]

theorem front_of_four {lead : UInt8} (class4 : 0xF0 ≤ lead.toNat ∧ lead.toNat ≤ 0xF4)
    (rest : Bytes) :
    front lead rest = follow (lead.toNat - 0xF0) 1 [(if lead.toNat = 0xF0 then 0x90 else 0x80,
      if lead.toNat = 0xF4 then 0x8F else 0xBF), (0x80, 0xBF), (0x80, 0xBF)] rest := by
  rw [front, owed_of_four class4, payload_of_four class4]

theorem front_cases {lead : UInt8} {rest : Bytes} {c : Char} {length : ℕ}
    (reads : front lead rest = .char c length) :
    lead.toNat < 0x80 ∨ (0xC2 ≤ lead.toNat ∧ lead.toNat < 0xE0) ∨
      (0xE0 ≤ lead.toNat ∧ lead.toNat < 0xF0) ∨ (0xF0 ≤ lead.toNat ∧ lead.toNat ≤ 0xF4) := by
  rw [front] at reads
  cases owes : owed lead with
  | none => simp [owes] at reads
  | some ranges => exact owed_cases owes

theorem ofNat_eq {n : ℕ} {b : UInt8} (same : n = b.toNat) : UInt8.ofNat n = b := by
  rw [same, UInt8.ofNat_toNat]

theorem continuation_eq {n : ℕ} {b : UInt8} (same : 0x80 + n % 0x40 = b.toNat) :
    continuation n = b := ofNat_eq same

theorem encodeChar_of_front {lead : UInt8} {rest : Bytes} {c : Char} {length : ℕ}
    (reads : front lead rest = .char c length) :
    encodeChar c = lead :: rest.take (length - 1) := by
  rcases front_cases reads with class1 | class2 | class3 | class4
  · rw [front_of_ascii class1] at reads
    cases reads
    rw [encodeChar, toNat_ofNat (.inl (by omega))]
    rw [if_pos class1, ofNat_eq rfl]
    rfl
  · rw [front_of_two class2] at reads
    rcases follow_cons_iff.mp reads with ⟨b, others, rfl, inside, reads⟩
    rcases follow_nil_iff.mp reads with ⟨rfl, rfl⟩
    simp only [UInt8.le_iff_toNat_le, UInt8.toNat_ofNat] at inside
    rw [encodeChar, toNat_ofNat (.inl (by omega))]
    rw [if_neg (by omega), if_pos (by omega), ofNat_eq (b := lead) (by omega),
      continuation_eq (b := b) (by omega)]
    rfl
  · rw [front_of_three class3] at reads
    rcases follow_cons_iff.mp reads with ⟨b, _, rfl, inside, reads⟩
    rcases follow_cons_iff.mp reads with ⟨d, others, rfl, inside', reads⟩
    rcases follow_nil_iff.mp reads with ⟨rfl, rfl⟩
    simp only [UInt8.le_iff_toNat_le, apply_ite UInt8.toNat, UInt8.toNat_ofNat] at inside inside'
    have second : (0x80 ≤ b.toNat ∧ b.toNat ≤ 0xBF) ∧ (lead.toNat = 0xE0 → 0xA0 ≤ b.toNat) ∧
        (lead.toNat = 0xED → b.toNat ≤ 0x9F) := by
      split_ifs at inside <;> omega
    rw [encodeChar, toNat_ofNat (by unfold Nat.isValidChar; omega)]
    rw [if_neg (by omega), if_neg (by omega), if_pos (by omega), ofNat_eq (b := lead) (by omega),
      continuation_eq (b := b) (by omega), continuation_eq (b := d) (by omega)]
    rfl
  · rw [front_of_four class4] at reads
    rcases follow_cons_iff.mp reads with ⟨b, _, rfl, inside, reads⟩
    rcases follow_cons_iff.mp reads with ⟨d, _, rfl, inside', reads⟩
    rcases follow_cons_iff.mp reads with ⟨e, others, rfl, inside'', reads⟩
    rcases follow_nil_iff.mp reads with ⟨rfl, rfl⟩
    simp only [UInt8.le_iff_toNat_le, apply_ite UInt8.toNat, UInt8.toNat_ofNat]
      at inside inside' inside''
    have second : (0x80 ≤ b.toNat ∧ b.toNat ≤ 0xBF) ∧ (lead.toNat = 0xF0 → 0x90 ≤ b.toNat) ∧
        (lead.toNat = 0xF4 → b.toNat ≤ 0x8F) := by
      split_ifs at inside <;> omega
    rw [encodeChar, toNat_ofNat (by unfold Nat.isValidChar; omega)]
    rw [if_neg (by omega), if_neg (by omega), if_neg (by omega), ofNat_eq (b := lead) (by omega),
      continuation_eq (b := b) (by omega), continuation_eq (b := d) (by omega),
      continuation_eq (b := e) (by omega)]
    rfl

/-- The character at the front of some bytes, and what follows it. -/
theorem eq_append_of_front {lead : UInt8} {rest : Bytes} {c : Char} {length : ℕ}
    (reads : front lead rest = .char c length) :
    lead :: rest = encodeChar c ++ rest.drop (length - 1) := by
  rw [encodeChar_of_front reads, List.cons_append, List.take_append_drop]

theorem length_encodeChar_of_front {lead : UInt8} {rest : Bytes} {c : Char} {length : ℕ}
    (reads : front lead rest = .char c length) : (encodeChar c).length = length := by
  rcases front_char reads with ⟨inside, -⟩
  rw [encodeChar_of_front reads, List.length_cons, List.length_take]
  omega

theorem isAscii_iff {b : UInt8} : isAscii b = true ↔ b.toNat < 0x80 := by
  simp [isAscii, UInt8.lt_iff_toNat_lt]

theorem encodeChar_of_ascii {b : UInt8} (ascii : isAscii b = true) :
    encodeChar (Char.ofNat b.toNat) = [b] := by
  rw [encodeChar_of_front (front_of_ascii (isAscii_iff.mp ascii) []), List.take_nil]

theorem toNat_continuation (n : ℕ) : (continuation n).toNat = 0x80 + n % 0x40 := by
  rw [continuation, UInt8.toNat_ofNat']
  omega

/-- A byte that continues a character is read as one, and adds its six bits. -/
theorem follow_continuation {value taken n : ℕ} {r : Range} {ranges : List Range} {rest : Bytes}
    (inside : r.1.toNat ≤ 0x80 + n % 0x40 ∧ 0x80 + n % 0x40 ≤ r.2.toNat) :
    follow value taken (r :: ranges) (continuation n :: rest) =
      follow (value * 0x40 + n % 0x40) (taken + 1) ranges rest := by
  have same := toNat_continuation n
  rw [follow, if_pos, same]
  · congr 2
    omega
  · simpa [UInt8.le_iff_toNat_le, same] using inside

section Encoded

variable {c : Char} (rest : Bytes)

theorem front_encoded_one (class1 : c.toNat < 0x80) :
    front (.ofNat c.toNat) rest = .char c 1 := by
  have lead : (UInt8.ofNat c.toNat).toNat = c.toNat :=
    UInt8.toNat_ofNat_of_lt' (by change _ < 256; omega)
  rw [front_of_ascii (by omega), lead, Char.ofNat_toNat]

theorem front_encoded_two (class2 : 0x80 ≤ c.toNat ∧ c.toNat < 0x800) :
    front (.ofNat (0xC0 + c.toNat / 0x40)) (continuation c.toNat :: rest) = .char c 2 := by
  have lead : (UInt8.ofNat (0xC0 + c.toNat / 0x40)).toNat = 0xC0 + c.toNat / 0x40 :=
    UInt8.toNat_ofNat_of_lt' (by change _ < 256; omega)
  have value : (0xC0 + c.toNat / 0x40 - 0xC0) * 0x40 + c.toNat % 0x40 = c.toNat := by omega
  rw [front_of_two (by omega), lead, follow_continuation (by simp; omega), value, follow,
    Char.ofNat_toNat]

theorem front_encoded_three (class3 : 0x800 ≤ c.toNat ∧ c.toNat < 0x10000) :
    front (.ofNat (0xE0 + c.toNat / 0x1000))
        (continuation (c.toNat / 0x40) :: continuation c.toNat :: rest) = .char c 3 := by
  have lead : (UInt8.ofNat (0xE0 + c.toNat / 0x1000)).toNat = 0xE0 + c.toNat / 0x1000 :=
    UInt8.toNat_ofNat_of_lt' (by change _ < 256; omega)
  have value : ((0xE0 + c.toNat / 0x1000 - 0xE0) * 0x40 + c.toNat / 0x40 % 0x40) * 0x40 +
      c.toNat % 0x40 = c.toNat := by omega
  have valid : c.toNat < 0xD800 ∨ 0xDFFF < c.toNat ∧ c.toNat < 0x110000 := c.valid
  rw [front_of_three (by omega), lead, follow_continuation, follow_continuation, value, follow,
    Char.ofNat_toNat]
  · simp
    omega
  · -- the second byte is narrowed after two of the leads, which keeps surrogates out
    simp only [apply_ite UInt8.toNat]
    split_ifs <;> simp <;> omega

theorem front_encoded_four (class4 : 0x10000 ≤ c.toNat) :
    front (.ofNat (0xF0 + c.toNat / 0x40000))
        (continuation (c.toNat / 0x1000) :: continuation (c.toNat / 0x40) ::
          continuation c.toNat :: rest) = .char c 4 := by
  have valid : c.toNat < 0xD800 ∨ 0xDFFF < c.toNat ∧ c.toNat < 0x110000 := c.valid
  have lead : (UInt8.ofNat (0xF0 + c.toNat / 0x40000)).toNat = 0xF0 + c.toNat / 0x40000 :=
    UInt8.toNat_ofNat_of_lt' (by change _ < 256; omega)
  have value : (((0xF0 + c.toNat / 0x40000 - 0xF0) * 0x40 + c.toNat / 0x1000 % 0x40) * 0x40 +
      c.toNat / 0x40 % 0x40) * 0x40 + c.toNat % 0x40 = c.toNat := by omega
  rw [front_of_four (by omega), lead, follow_continuation, follow_continuation,
    follow_continuation, value, follow, Char.ofNat_toNat]
  · simp
    omega
  · simp
    omega
  · simp only [apply_ite UInt8.toNat]
    split_ifs <;> simp <;> omega

end Encoded

theorem front_encodeChar (c : Char) (rest : Bytes) :
    ∃ (lead : UInt8) (tail : Bytes), encodeChar c = lead :: tail ∧
      front lead (tail ++ rest) = .char c (tail.length + 1) := by
  rw [encodeChar]
  by_cases class1 : c.toNat < 0x80
  · rw [if_pos class1]
    exact ⟨_, [], rfl, front_encoded_one rest class1⟩
  by_cases class2 : c.toNat < 0x800
  · rw [if_neg class1, if_pos class2]
    exact ⟨_, [_], rfl, front_encoded_two rest ⟨by omega, class2⟩⟩
  by_cases class3 : c.toNat < 0x10000
  · rw [if_neg class1, if_neg class2, if_pos class3]
    exact ⟨_, [_, _], rfl, front_encoded_three rest ⟨by omega, class3⟩⟩
  · rw [if_neg class1, if_neg class2, if_neg class3]
    exact ⟨_, [_, _, _], rfl, front_encoded_four rest (by omega)⟩

/-- Behind its first byte, an encoded character has only bytes that start none. -/
theorem continues_of_mem_tail {c : Char} {b : UInt8} (inside : b ∈ (encodeChar c).tail) :
    0x80 ≤ b.toNat ∧ b.toNat < 0xC0 := by
  have continues (n : ℕ) : 0x80 ≤ (continuation n).toNat ∧ (continuation n).toNat < 0xC0 := by
    rw [toNat_continuation]
    omega
  rw [encodeChar] at inside
  split_ifs at inside <;> simp only [List.tail_cons, List.mem_cons, List.not_mem_nil, or_false] at inside
  · rw [inside]
    exact continues _
  · rcases inside with rfl | rfl <;> exact continues _
  · rcases inside with rfl | rfl | rfl <;> exact continues _

theorem high_of_encodeChar {c : Char} (beyond : 0x80 ≤ c.toNat) : ∀ b ∈ encodeChar c, 0x80 ≤ b.toNat := by
  rcases front_encodeChar c [] with ⟨lead, tail, written, reads⟩
  intro b inside
  rw [written] at inside
  rcases List.mem_cons.mp inside with rfl | behind
  · by_contra ascii
    rw [front_of_ascii (by omega)] at reads
    rw [← (Front.char.inj reads).1, toNat_ofNat (.inl (by omega))] at beyond
    exact ascii beyond
  · exact (continues_of_mem_tail (by rwa [written])).1

theorem front_alone {lead : UInt8} (high : 0x80 ≤ lead.toNat) :
    ∃ length truncated, front lead [] = .illFormed length truncated := by
  cases stops : front lead [] with
  | illFormed length truncated => exact ⟨length, truncated, rfl⟩
  | char c length =>
    rcases front_cases stops with class1 | class2 | class3 | class4
    · omega
    · rw [front_of_two class2] at stops
      cases stops
    · rw [front_of_three class3] at stops
      cases stops
    · rw [front_of_four class4] at stops
      cases stops

/-- A character at the front of some bytes ends before an encoded character that follows. -/
theorem length_le_of_front {lead : UInt8} {before after : Bytes} {c d : Char} {length : ℕ}
    (reads : front lead (before ++ encodeChar c ++ after) = .char d length) :
    length ≤ before.length + 1 := by
  rcases front_encodeChar c [] with ⟨start, tail, written, starts⟩
  by_contra beyond
  have inside : start ∈ (encodeChar d).tail := by
    rw [encodeChar_of_front reads, written, List.tail_cons, List.append_assoc, List.take_append]
    obtain ⟨n, more⟩ : ∃ n, length - 1 - before.length = n + 1 :=
      ⟨length - before.length - 2, by omega⟩
    rw [more]
    simp
  have continues := continues_of_mem_tail inside
  have starts := front_cases starts
  omega

theorem length_encodeChar_le (c : Char) : (encodeChar c).length ≤ 4 := by
  unfold encodeChar
  simp only
  split_ifs <;> simp

theorem length_encodeChar_pos (c : Char) : 0 < (encodeChar c).length := by
  unfold encodeChar
  simp only
  split_ifs <;> simp

theorem one_lt_length_encodeChar {c : Char} (beyond : 0x80 ≤ c.toNat) : 1 < (encodeChar c).length := by
  unfold encodeChar
  simp only
  split_ifs
  · omega
  all_goals simp

@[simp] theorem encode_nil : encode [] = [] := rfl

@[simp] theorem encode_cons (c : Char) (cs : List Char) : encode (c :: cs) = encodeChar c ++ encode cs :=
  rfl

theorem encode_singleton (c : Char) : encode [c] = encodeChar c := by
  rw [encode_cons, encode_nil, List.append_nil]

/-- Encoded text is scanned first, and what follows it is scanned from its end. -/
theorem scanFrom_encode_append (offset : ℕ) (cs : List Char) (rest : Bytes) :
    scanFrom offset (encode cs ++ rest) =
      (cs ++ (scanFrom (offset + (encode cs).length) rest).1,
        (scanFrom (offset + (encode cs).length) rest).2) := by
  induction cs generalizing offset with
  | nil => rfl
  | cons c cs ih =>
    rcases front_encodeChar c (encode cs ++ rest) with ⟨lead, tail, written, reads⟩
    have further : offset + (tail.length + 1) + (encode cs).length =
        offset + (encode (c :: cs)).length := by
      rw [encode_cons, written, List.length_append, List.length_cons, Nat.add_assoc]
    rw [← further, encode_cons, written, List.append_assoc, List.cons_append, scanFrom]
    simp only [reads, Nat.add_sub_cancel, List.drop_left, ih, List.cons_append]

theorem validate_encode (cs : List Char) : validate (encode cs) = .ok cs := by
  rw [validate, scan, ← List.append_nil (encode cs), scanFrom_encode_append, scanFrom, List.append_nil]

end LinkCharset.Utf8
