import LinkCharset.Encoding
import LinkCharset.Proofs.Encoding.Local

/-! # The decoders cut any input into pieces

One lemma for each encoding. All but two read every item locally, and in the same way; UTF-8 and
ISO-2022-JP remember something of what they have read, which does harm only at the end of an input. -/
namespace LinkCharset

theorem SingleByte.isLocal_read (t : SingleByte) (b : UInt8) : IsLocal (t.read b) := by
  cases has : t.char? b with
  | some c =>
    have same : t.read b = fun _ => .char c 1 := by
      funext rest
      simp only [SingleByte.read, has]
    rw [same]
    exact .char c
  | none =>
    have same : t.read b = fun _ => .bad 1 := by
      funext rest
      simp only [SingleByte.read, has]
    rw [same]
    exact .bad

theorem ShiftJis.isLocal_read (b : UInt8) : IsLocal (ShiftJis.read b) :=
  .ite (.char _) (.ite (.char _) (.ite (.charPair _) .bad))

theorem EucKr.isLocal_read (b : UInt8) : IsLocal (EucKr.read b) :=
  .ite (.char _) (.ite (.charPair _) .bad)

namespace EucJp

theorem isLocal_readTriple : IsLocal readTriple := by
  intro rest
  match rest with
  | [] => exact ⟨le_rfl, le_rfl⟩
  | [second] =>
    simp only [readTriple, Reading.badTrail, Reading.bad]
    split_ifs <;> simp
  | second :: third :: others =>
    by_cases high : isHigh second
    · by_cases high' : isHigh third
      · cases has : Jis.cell? Jis.x0212 0xA1 second third with
        | some c =>
          have reads (others : Bytes) : readTriple (second :: third :: others) = .char c 3 := by
            simp [readTriple, high, high', has]
          rw [reads]
          exact ⟨⟨by simp, by simp⟩, length_encode_char c, List.cons_ne_nil _ _, reads⟩
        | none => simp [readTriple, high, high', has, Reading.bad]
      · simp only [readTriple, high, high', Reading.badTrail, Reading.bad]
        cases isAscii third <;> simp
    · simp only [readTriple, high, Reading.badTrail, Reading.bad]
      cases isAscii second <;> simp

theorem isLocal_read (b : UInt8) : IsLocal (EucJp.read b) :=
  .ite (.char _) (.ite (.charPair _) (.ite isLocal_readTriple (.ite (.charPair _) .bad)))

end EucJp

namespace Gb

theorem isLocal_readLead (lead : UInt8) : IsLocal (readLead lead) := by
  intro rest
  match rest with
  | [] => exact ⟨le_rfl, le_rfl⟩
  | second :: rest =>
    by_cases digit : isDigit second
    · match rest with
      | [] => simp [readLead, digit, readGroup, Reading.bad]
      | [third] =>
        simp only [readLead, digit, readGroup, Reading.bad]
        cases isLead third <;> simp
      | third :: fourth :: others =>
        by_cases leads : isLead third
        · by_cases digit' : isDigit fourth
          · cases has : groupChar? (groupPosition lead second third fourth) with
            | some c =>
              have reads (others : Bytes) :
                  readLead lead (second :: third :: fourth :: others) = .char c 4 := by
                simp [readLead, digit, readGroup, leads, digit', has]
              rw [reads]
              exact ⟨⟨by simp, by simp⟩, length_encode_char c, List.cons_ne_nil _ _, reads⟩
            | none => simp [readLead, digit, readGroup, leads, digit', has, Reading.bad]
          · simp [readLead, digit, readGroup, leads, digit']
        · simp [readLead, digit, readGroup, leads]
    · have same (others : Bytes) : readLead lead (second :: others) =
          .pair (fun trail => (pair? lead trail).map ([·])) (second :: others) := by
        simp [readLead, digit]
      cases has : pair? lead second with
      | some c =>
        have reads (others : Bytes) : readLead lead (second :: others) = .char c 2 := by
          simp [same, Reading.pair, has, Reading.char]
        rw [reads]
        exact ⟨⟨by simp, by simp⟩, length_encode_char c, List.cons_ne_nil _ _, reads⟩
      | none =>
        simp only [same, Reading.pair, has, Option.map_none, Reading.badTrail, Reading.bad]
        cases isAscii second <;> simp

theorem isLocal_read (b : UInt8) : IsLocal (Gb.read b) :=
  .ite (.char _) (.ite (.char _) (.ite (isLocal_readLead b) .bad))

end Gb

namespace Big5

theorem pair?_small {lead trail : UInt8} {chars : List Char} (has : pair? lead trail = some chars) :
    (Utf8.encode chars).length ≤ charRoom ∧ chars ≠ [] := by
  rw [pair?] at has
  split_ifs at has
  dsimp only at has
  cases composed : composed? (position lead trail) with
  | some composition =>
    simp only [composed, Option.some.injEq] at has
    subst has
    unfold composed? at composed
    split at composed <;> cases composed <;> decide
  | none =>
    simp only [composed] at has
    rcases Option.map_eq_some_iff.mp has with ⟨c, -, rfl⟩
    exact ⟨length_encode_char c, List.cons_ne_nil _ _⟩

theorem isLocal_read (b : UInt8) : IsLocal (Big5.read b) :=
  .ite (.char _) (.ite (.pair fun _ _ => pair?_small) .bad)

end Big5

namespace Utf16

theorem isLocal_read (order : Order) (b : UInt8) : IsLocal (Utf16.read order b) := by
  intro rest
  match rest with
  | [] => exact ⟨le_rfl, le_rfl⟩
  | second :: rest =>
    by_cases high : isHigh (unit order b second)
    · match rest with
      | [] => simp [read, high, readLow, Reading.bad]
      | [third] => simp [read, high, readLow, Reading.bad]
      | third :: fourth :: others =>
        by_cases low : isLow (unit order third fourth)
        · have reads (others : Bytes) : read order b (second :: third :: fourth :: others) =
              .char (combine (unit order b second) (unit order third fourth)) 4 := by
            simp [read, high, readLow, low]
          rw [reads]
          exact ⟨⟨by simp, by simp⟩, length_encode_char _, List.cons_ne_nil _ _, reads⟩
        · simp [read, high, readLow, low]
    · by_cases low : isLow (unit order b second)
      · simp [read, high, low, Reading.bad]
      · have reads (others : Bytes) :
            read order b (second :: others) = .char (Char.ofNat (unit order b second)) 2 := by
          simp [read, high, low]
        rw [reads]
        exact ⟨⟨by simp, by simp⟩, length_encode_char _, List.cons_ne_nil _ _, reads⟩

end Utf16

namespace Utf8

/-- A lead byte asks for the range that it owes, unless another one has left its mark. -/
theorem asked_eq {lead : UInt8} {r : Range} {others : List Range}
    (owes : owed lead = some (r :: others)) : asked anyContinuation lead = r := by
  rw [owed] at owes
  unfold asked anyContinuation
  split_ifs at owes ⊢ <;> simp_all

theorem read_of_char {mode : Range} {lead : UInt8} {rest : Bytes} {c : Char} {length : ℕ}
    (reads : front lead rest = .char c length) : read mode lead rest = .text [c] length mode := by
  rw [read, reads]

/-- An ill-formed sequence is as long as its maximal subpart, and leaves a mark only where nothing
follows it. -/
theorem read_of_illFormed {lead : UInt8} {rest : Bytes} {length : ℕ} {truncated : Bool}
    (stops : front lead rest = .illFormed length truncated) :
    ∃ next, read anyContinuation lead rest = .malformed length 0 next ∧
      (rest ≠ [] → next = anyContinuation) := by
  rw [read, stops]
  rw [front] at stops
  simp only [readIllFormed]
  cases owes : owed lead with
  | none =>
    simp only [owes, Front.illFormed.injEq] at stops
    exact ⟨_, by rw [stops.1], fun _ => rfl⟩
  | some ranges =>
    simp only [owes] at stops
    cases ranges with
    | nil => cases stops
    | cons r others =>
      simp only [asked_eq owes]
      cases rest with
      | nil =>
        rcases Front.illFormed.inj stops with ⟨rfl, -⟩
        exact ⟨r, rfl, fun some => absurd rfl some⟩
      | cons b rest => exact ⟨_, by rw [stops], fun _ => rfl⟩

/-- Whether a mode fits what is left: a mark left behind matters only if more is to come. -/
def Fits (mode : Range) (left : Bytes) : Prop := left ≠ [] → mode = anyContinuation

theorem sound : decoder.Sound Fits fun _ => False where
  start := fun _ _ => rfl
  wants_lt busy b rest := by
    change wants busy b rest < charRoom
    rw [wants]
    cases reads : front b rest with
    | char c length =>
      have few := (front_char reads).2.1
      exact Nat.lt_succ_of_le few
    | illFormed length truncated => exact (by decide : 4 < charRoom)
  within {mode b rest} fits := by
    obtain rfl : mode = anyContinuation := fits (List.cons_ne_nil _ _)
    change decoder.Within _ _ anyContinuation b rest (read anyContinuation b rest)
    cases stops : front b rest with
    | char c n =>
      rcases front_char stops with ⟨inside, -, same⟩
      have alone := same []
      rw [List.append_nil] at alone
      rw [read_of_char stops]
      exact ⟨inside, length_encode_char c, ⟨_, read_of_char alone⟩, by simp, fun _ => rfl⟩
    | illFormed n truncated =>
      rcases front_illFormed stops with ⟨inside, -⟩
      rcases read_of_illFormed stops with ⟨next, reads, settled⟩
      rw [reads]
      refine ⟨inside, fun some => ?_⟩
      rw [Decoder.resume]
      split_ifs
      · rfl
      · exact settled some

end Utf8

namespace Iso2022Jp

/-- Whether a memory fits what is left: an escape byte that the input was thought to end in may be
all that is left of it. -/
def Fits (m : Memory) (left : Bytes) : Prop := m.isDangling = true → left.length ≤ 1

def IsEscape (bytes : Bytes) : Prop := bytes.length = 3 ∧ startsEscape bytes = true

theorem fits_settled (mode : Mode) (left : Bytes) : Fits ⟨mode, false⟩ left := by
  intro dangling
  cases dangling

theorem fits_resume {bad extra : ℕ} {mode : Mode} {left : Bytes} :
    Fits (decoder.resume bad extra ⟨mode, false⟩) left := by
  rw [Decoder.resume]
  split_ifs
  · exact fits_settled _ left
  · exact fits_settled _ left

theorem three_le_of_startsEscape {bytes : Bytes} (starts : startsEscape bytes = true) :
    3 ≤ bytes.length := by
  unfold startsEscape at starts
  split at starts
  · simp
  · cases starts

theorem startsEscape_eq (second third : UInt8) (after : Bytes) :
    startsEscape (0x1B :: second :: third :: after) = (designated? second third).isSome := rfl

theorem read_escape (m : Memory) (rest : Bytes) : read m 0x1B rest = readEscape m rest := by
  rw [read, if_pos rfl]

/-- Three bytes are taken for an escape sequence only if none of them was read before. -/
theorem within_escape {m : Memory} {rest : Bytes} (fits : Fits m (0x1B :: rest)) :
    decoder.Within Fits IsEscape m 0x1B rest (readEscape m rest) := by
  match rest with
  | [] => exact ⟨⟨le_rfl, le_rfl⟩, fun _ => Nat.zero_le 1⟩
  | [second] =>
    simp only [readEscape]
    split_ifs
    · exact ⟨⟨le_rfl, le_rfl⟩, fits_resume⟩
    · exact ⟨⟨le_rfl, by simp⟩, fits_resume⟩
  | second :: third :: after =>
    by_cases introduces : second = 0x24 ∨ second = 0x28
    · cases designates : designated? second third with
      | none =>
        simp only [readEscape, if_pos introduces, designates]
        exact ⟨⟨le_rfl, by simp⟩, fits_resume⟩
      | some next =>
        have settled : m.isDangling = false := by
          by_contra dangling
          have short := fits (by simpa using dangling)
          simp at short
        simp only [readEscape, if_pos introduces, designates, enter, settled]
        by_cases again : startsEscape after
        · have three := three_le_of_startsEscape again
          simp only [again]
          exact ⟨⟨by omega, by simp; omega⟩, fits_resume⟩
        · have alone : read m 0x1B [second, third] = .text [] 3 ⟨next, false⟩ := by
            simp [read_escape, readEscape, introduces, designates, enter, settled, startsEscape]
          have escapes : startsEscape [0x1B, second, third] = true := by
            rw [startsEscape_eq, designates]
            rfl
          simp only [again]
          refine ⟨by simp, by simp [charRoom], ⟨_, alone⟩, fun _ => ⟨rfl, escapes⟩, fun ends => ?_⟩
          have only : after = [0x1B] := by simpa using ends
          simp [only]
    · simp only [readEscape, if_neg introduces]
      exact ⟨⟨le_rfl, by simp⟩, fits_resume⟩

theorem within_pair {m : Memory} {lead : UInt8} (plain : lead ≠ 0x1B) (kanji : m.mode = .kanji)
    (cell : isCell lead = true) (rest : Bytes) :
    decoder.Within Fits IsEscape m lead rest (readPair lead rest) := by
  match rest with
  | [] => exact ⟨⟨le_rfl, le_rfl⟩, fits_resume⟩
  | trail :: rest =>
    by_cases escape : trail = 0x1B
    · simp only [readPair, if_pos escape]
      exact ⟨⟨le_rfl, by simp⟩, fits_resume⟩
    · cases has : if isCell trail then Jis.cell? Jis.x0208 0x21 lead trail else none with
      | some c =>
        have reads (others : Bytes) : readPair lead (trail :: others) = .text [c] 2 ⟨.kanji, false⟩ := by
          simp [readPair, escape, has]
        have alone : read m lead [trail] = .text [c] 2 ⟨.kanji, false⟩ := by
          rw [read, if_neg plain, if_pos kanji, if_pos cell, reads]
        rw [reads]
        exact ⟨by simp, length_encode_char c, ⟨_, alone⟩, by simp, fits_settled _ _⟩
      | none =>
        simp only [readPair, if_neg escape, has]
        exact ⟨by simp, fits_resume⟩

theorem sound : decoder.Sound Fits IsEscape where
  start := fun left => fits_settled _ left
  wants_lt _ _ _ := (by decide : itemRoom < charRoom)
  within {m b rest} fits := by
    change decoder.Within Fits IsEscape m b rest (read m b rest)
    by_cases escape : b = 0x1B
    · subst escape
      rw [read_escape]
      exact within_escape fits
    by_cases kanji : m.mode = .kanji
    · by_cases cell : isCell b = true
      · rw [read, if_neg escape, if_pos kanji, if_pos cell]
        exact within_pair escape kanji cell rest
      · rw [read, if_neg escape, if_pos kanji, if_neg cell]
        exact ⟨⟨le_rfl, by simp⟩, fits_resume⟩
    · cases has : single? m.mode b with
      | some c =>
        have reads (rest : Bytes) : read m b rest = .text [c] 1 ⟨m.mode, false⟩ := by
          simp [read, escape, kanji, has]
        rw [reads]
        exact ⟨by simp, length_encode_char c, ⟨_, reads _⟩, by simp, fits_settled _ _⟩
      | none =>
        have reads : read m b rest = .malformed 1 0 ⟨m.mode, false⟩ := by
          simp [read, escape, kanji, has]
        rw [reads]
        exact ⟨⟨le_rfl, by simp⟩, fits_resume⟩

end Iso2022Jp

theorem Replacement.sound : Replacement.decoder.Sound (fun _ _ => True) fun _ => True where
  start := fun _ => trivial
  wants_lt _ _ _ := (by decide : 0 < charRoom)
  within {mode b rest} _ := by
    cases mode with
    | fresh => exact ⟨⟨le_rfl, by simp⟩, trivial⟩
    | spent => exact ⟨by simp, Nat.zero_le _, ⟨.spent, by simp [decoder, read]⟩, by simp, trivial⟩

namespace Encoding

/-- Whether a mode of the decoder fits what is left of an input. -/
def Fits : (e : Encoding) → e.decoder.Mode → Bytes → Prop
  | utf8 => Utf8.Fits
  | iso2022Jp => Iso2022Jp.Fits
  | utf16 _ | replacement | singleByte _ | shiftJis | eucJp | gbk | gb18030 | big5 | eucKr =>
    fun _ _ => True

def IsShift : Encoding → Bytes → Prop
  | iso2022Jp => Iso2022Jp.IsEscape
  | replacement => fun _ => True
  | utf8 | utf16 _ | singleByte _ | shiftJis | eucJp | gbk | gb18030 | big5 | eucKr => fun _ => False

theorem decoder_sound : ∀ e : Encoding, e.decoder.Sound e.Fits e.IsShift
  | utf8 => Utf8.sound
  | utf16 order => IsLocal.sound (Utf16.isLocal_read order) (by decide)
  | replacement => Replacement.sound
  | singleByte table => IsLocal.sound table.isLocal_read (by cases table <;> decide)
  | shiftJis => IsLocal.sound ShiftJis.isLocal_read (by decide)
  | eucJp => IsLocal.sound EucJp.isLocal_read (by decide)
  | iso2022Jp => Iso2022Jp.sound
  | gbk => IsLocal.sound Gb.isLocal_read (by decide)
  | gb18030 => IsLocal.sound Gb.isLocal_read (by decide)
  | big5 => IsLocal.sound Big5.isLocal_read (by decide)
  | eucKr => IsLocal.sound EucKr.isLocal_read (by decide)

end Encoding

end LinkCharset
