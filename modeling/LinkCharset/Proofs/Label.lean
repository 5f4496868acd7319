import LinkCharset.Label
import LinkCharset.Proofs.Utf8.Validation
import Mathlib.Data.List.TakeWhile

/-! # Where a label stands

Behind the first key, however that is spelt, stands a run of bytes that are not blank. The run is
the label if it is all ASCII; otherwise there is none, whatever stands behind it. -/
namespace LinkCharset.Label

/-- Space, tab, line feed, vertical tab, form feed and carriage return. -/
def blanks : Bytes := [0x20, 0x09, 0x0A, 0x0B, 0x0C, 0x0D]

/-- A small letter, or the capital that it stands for, or any other byte itself. -/
def Spells (b letter : UInt8) : Prop :=
  b = letter ∨ (0x61 ≤ letter.toNat ∧ letter.toNat ≤ 0x7A) ∧ b.toNat + 0x20 = letter.toNat

def IsKey (key : Bytes) : Prop := List.Forall₂ Spells key (utf8 "charset=")

/-- The first key of an input and the run of bytes behind it, up to the next blank or the end. -/
structure FirstRun (input before key run after : Bytes) : Prop where
  whole : input = before ++ key ++ run ++ after
  isKey : IsKey key
  /-- No key stands further in front, or overlaps this one there. -/
  isFirst : ∀ earlier other later, input = earlier ++ other ++ later → IsKey other →
    before.length ≤ earlier.length
  solid : ∀ b ∈ run, b ∉ blanks
  ends : after = [] ∨ ∃ b rest, after = b :: rest ∧ b ∈ blanks

theorem isBlank_iff {b : UInt8} : isBlank b = true ↔ b ∈ blanks := by
  simp only [isBlank, blanks, Bool.or_eq_true, Bool.and_eq_true, beq_iff_eq, decide_eq_true_eq,
    UInt8.le_iff_toNat_le, List.mem_cons, List.not_mem_nil, or_false, ← UInt8.toNat_inj,
    UInt8.toNat_ofNat]
  omega

section Key

variable {b letter : UInt8} {key input value : Bytes}

/-- Folding the case makes the letters of a key small. -/
theorem foldCase_eq_iff (small : letter.toNat < 0x41 ∨ 0x5A < letter.toNat) :
    foldCase b = letter ↔ Spells b letter := by
  rw [foldCase, Spells]
  split_ifs with capital
  · simp only [Bool.and_eq_true, decide_eq_true_eq, UInt8.le_iff_toNat_le, UInt8.toNat_ofNat] at capital
    simp only [← UInt8.toNat_inj, UInt8.toNat_add, UInt8.toNat_ofNat]
    omega
  · simp only [Bool.and_eq_true, decide_eq_true_eq, UInt8.le_iff_toNat_le, UInt8.toNat_ofNat] at capital
    simp only [← UInt8.toNat_inj]
    omega

theorem map_foldCase_eq_iff {letters : Bytes}
    (small : ∀ letter ∈ letters, letter.toNat < 0x41 ∨ 0x5A < letter.toNat) :
    key.map foldCase = letters ↔ List.Forall₂ Spells key letters := by
  induction letters generalizing key with
  | nil => simp
  | cons letter letters ih =>
    rcases List.forall_mem_cons.mp small with ⟨here, later⟩
    cases key with
    | nil => simp
    | cons b rest =>
      rw [List.map_cons, List.cons_eq_cons, List.forall₂_cons, foldCase_eq_iff here, ih later]

theorem charsetKey_eq : charsetKey = [0x63, 0x68, 0x61, 0x72, 0x73, 0x65, 0x74, 0x3D] := by rfl

theorem isKey_iff : IsKey key ↔ key.map foldCase = charsetKey := by
  refine (map_foldCase_eq_iff ?_).symm
  change ∀ letter ∈ charsetKey, _
  simp [charsetKey_eq]

theorem IsKey.length_eq (isKey : IsKey key) : key.length = charsetKey.length := by
  rw [← isKey_iff.mp isKey, List.length_map]

theorem startsWithKey_iff : startsWithKey input = true ↔ ∃ key, IsKey key ∧ key <+: input := by
  rw [startsWithKey, beq_iff_eq]
  constructor
  · intro spelt
    exact ⟨_, isKey_iff.mpr spelt, List.take_prefix _ _⟩
  · rintro ⟨key, isKey, later, rfl⟩
    rw [← isKey.length_eq, List.take_left]
    exact isKey_iff.mp isKey

theorem exists_of_afterKey? (found : afterKey? input = some value) :
    ∃ before key, input = before ++ key ++ value ∧ IsKey key ∧
      ∀ earlier other later, input = earlier ++ other ++ later → IsKey other →
        before.length ≤ earlier.length := by
  fun_induction afterKey? input with
  | case1 => cases found
  | case2 b rest starts =>
    rcases startsWithKey_iff.mp starts with ⟨key, isKey, later, whole⟩
    rw [← whole, ← isKey.length_eq, List.drop_left] at found
    cases found
    exact ⟨[], key, whole.symm, isKey, fun _ _ _ _ _ => Nat.zero_le _⟩
  | case3 b rest starts ih =>
    rcases ih found with ⟨before, key, whole, isKey, isFirst⟩
    refine ⟨b :: before, key, by rw [whole]; rfl, isKey, fun earlier other later split isOther => ?_⟩
    cases earlier with
    | nil => exact absurd (startsWithKey_iff.mpr ⟨other, isOther, later, split.symm⟩) starts
    | cons first earlier =>
      rw [List.cons_append, List.cons_append] at split
      exact Nat.succ_le_succ (isFirst earlier other later (List.cons.inj split).2 isOther)

theorem afterKey?_eq_none_iff : afterKey? input = none ↔ ∀ key, IsKey key → ¬ key <:+: input := by
  fun_induction afterKey? input with
  | case1 =>
    refine iff_of_true rfl fun key isKey inside => ?_
    rw [List.infix_nil.mp inside] at isKey
    cases isKey
  | case2 b rest starts =>
    rcases startsWithKey_iff.mp starts with ⟨key, isKey, front⟩
    exact iff_of_false (Option.some_ne_none _) fun none => none key isKey front.isInfix
  | case3 b rest starts ih =>
    rw [ih]
    refine forall₂_congr fun key isKey => not_congr ?_
    rw [List.infix_cons_iff]
    exact (or_iff_right fun front => starts (startsWithKey_iff.mpr ⟨key, isKey, front⟩)).symm

end Key

namespace FirstRun

variable {input before key run after value : Bytes} (first : FirstRun input before key run after)
include first

theorem takeWhile_eq : (run ++ after).takeWhile (fun b => !isBlank b) = run := by
  have solid : ∀ b ∈ run, (!isBlank b) = true := by
    intro b inside
    rw [Bool.not_eq_true', ← Bool.not_eq_true, isBlank_iff]
    exact first.solid b inside
  rw [List.takeWhile_append_of_pos solid]
  rcases first.ends with rfl | ⟨b, rest, rfl, blank⟩
  · rw [List.takeWhile_nil, List.append_nil]
  · rw [List.takeWhile_cons_of_neg (by simp [isBlank_iff.mpr blank]), List.append_nil]

theorem unique {before' key' run' after' : Bytes} (other : FirstRun input before' key' run' after') :
    before = before' ∧ key = key' ∧ run = run' ∧ after = after' := by
  have whole : before ++ (key ++ (run ++ after)) = before' ++ (key' ++ (run' ++ after')) := by
    simpa only [List.append_assoc] using first.whole.symm.trans other.whole
  have least := first.isFirst before' key' (run' ++ after')
    (by simpa only [List.append_assoc] using other.whole) other.isKey
  have least' := other.isFirst before key (run ++ after)
    (by simpa only [List.append_assoc] using first.whole) first.isKey
  rcases List.append_inj whole (least.antisymm least') with ⟨sameBefore, behind⟩
  rcases List.append_inj behind (first.isKey.length_eq.trans other.isKey.length_eq.symm) with
    ⟨sameKey, value⟩
  have sameRun : run = run' := by rw [← first.takeWhile_eq, value, other.takeWhile_eq]
  subst sameRun
  exact ⟨sameBefore, sameKey, rfl, List.append_cancel_left value⟩

end FirstRun

/-- Behind a key that has been found, the run and what follows it are told apart by the first blank.
-/
theorem exists_firstRun {input value : Bytes} (found : afterKey? input = some value) :
    ∃ before key, FirstRun input before key (value.takeWhile fun b => !isBlank b)
      (value.dropWhile fun b => !isBlank b) := by
  rcases exists_of_afterKey? found with ⟨before, key, whole, isKey, isFirst⟩
  refine ⟨before, key, ?_, isKey, isFirst, fun b inside => ?_, ?_⟩
  · rw [List.append_assoc, List.takeWhile_append_dropWhile, whole]
  · have solid := List.mem_takeWhile_imp inside
    rwa [Bool.not_eq_true', ← Bool.not_eq_true, isBlank_iff] at solid
  · cases rest : value.dropWhile fun b => !isBlank b with
    | nil => exact .inl rfl
    | cons b others =>
      have blank := List.head?_dropWhile_not (fun b => !isBlank b) value
      simp only [rest, List.head?_cons, Bool.not_eq_false'] at blank
      exact .inr ⟨b, others, rfl, isBlank_iff.mp blank⟩

theorem FirstRun.isInfix {input before key run after : Bytes}
    (first : FirstRun input before key run after) : key <:+: input :=
  ⟨before, run ++ after, by rw [first.whole, ← List.append_assoc]⟩

theorem FirstRun.afterKey?_eq {input before key run after : Bytes}
    (first : FirstRun input before key run after) : afterKey? input = some (run ++ after) := by
  cases found : afterKey? input with
  | none => exact absurd first.isInfix (afterKey?_eq_none_iff.mp found key first.isKey)
  | some value =>
    rcases exists_firstRun found with ⟨before', key', other⟩
    rcases first.unique other with ⟨-, -, sameRun, sameAfter⟩
    rw [sameRun, sameAfter, List.takeWhile_append_dropWhile]

theorem FirstRun.parseCharsetBytes_eq {input before key run after : Bytes}
    (first : FirstRun input before key run after) :
    (parseCharsetBytes input).1 = if isLabel run then some (asciiText run) else none := by
  rw [parseCharsetBytes, first.afterKey?_eq]
  simp only [first.takeWhile_eq, checkLabelBytes]
  split_ifs <;> rfl

theorem FirstRun.isLabel_iff {input before key run after : Bytes}
    (first : FirstRun input before key run after) :
    isLabel run = true ↔ ∀ b ∈ run, b.toNat < 0x80 := by
  rw [isLabel, List.all_eq_true]
  refine forall₂_congr fun b inside => ?_
  have solid : isBlank b = false := by
    rw [← Bool.not_eq_true, isBlank_iff]
    exact first.solid b inside
  rw [isLabelByte, solid, Bool.not_false, Bool.and_true, Utf8.isAscii_iff]

theorem utf8_asciiText {bytes : Bytes} (ascii : ∀ b ∈ bytes, b.toNat < 0x80) :
    utf8 (asciiText bytes) = bytes := by
  rw [utf8, asciiText, String.toList_ofList]
  induction bytes with
  | nil => rfl
  | cons b rest ih =>
    rcases List.forall_mem_cons.mp ascii with ⟨here, later⟩
    rw [List.map_cons, Utf8.encode_cons, ih later, Utf8.encodeChar_of_ascii (Utf8.isAscii_iff.mpr here)]
    rfl

theorem IsKey.ascii {key : Bytes} (isKey : IsKey key) : ∀ b ∈ key, b.toNat < 0x80 := by
  intro b inside
  have small : ∀ letter ∈ charsetKey, letter.toNat < 0x80 := by simp [charsetKey_eq]
  have folded : foldCase b ∈ charsetKey := by
    rw [← isKey_iff.mp isKey]
    exact List.mem_map_of_mem inside
  have low := small _ folded
  rw [foldCase] at low
  split_ifs at low with capital
  · simp only [Bool.and_eq_true, decide_eq_true_eq, UInt8.le_iff_toNat_le, UInt8.toNat_ofNat] at capital
    omega
  · exact low

theorem utf8_append (text other : String) : utf8 (text ++ other) = utf8 text ++ utf8 other := by
  rw [utf8, String.toList_append, Utf8.encode, List.flatMap_append]
  rfl

theorem isText_ascii_append {ascii after : Bytes} (low : ∀ b ∈ ascii, b.toNat < 0x80) :
    Utf8.IsText (ascii ++ after) ↔ Utf8.IsText after := by
  rw [← utf8_asciiText low]
  exact Utf8.isText_encode_append

/-- In a text, the first run is cut out between characters if it is all ASCII, as is what stands in
front of it. -/
theorem FirstRun.exists_strings {text : String} {before key run after : Bytes}
    (first : FirstRun (utf8 text) before key run after) (ascii : ∀ b ∈ run, b.toNat < 0x80) :
    ∃ before' key' after' : String, utf8 before' = before ∧ utf8 key' = key ∧ utf8 after' = after ∧
      text = before' ++ key' ++ asciiText run ++ after' := by
  have isText : Utf8.IsText (before ++ key ++ run ++ after) := ⟨text, first.whole⟩
  have low := first.isKey.ascii
  have parts : Utf8.IsText before ∧ Utf8.IsText after := by
    cases key with
    | nil => exact nomatch first.isKey.length_eq
    | cons b rest =>
      rcases List.forall_mem_cons.mp low with ⟨here, later⟩
      have split : before ++ b :: rest ++ run ++ after =
          before ++ Utf8.encodeChar (Char.ofNat b.toNat) ++ (rest ++ (run ++ after)) := by
        rw [Utf8.encodeChar_of_ascii (Utf8.isAscii_iff.mpr here)]
        simp
      rwa [split, Utf8.isText_append_encodeChar, isText_ascii_append later,
        isText_ascii_append ascii] at isText
  rcases parts with ⟨⟨before', rfl⟩, ⟨after', rfl⟩⟩
  refine ⟨before', asciiText key, after', rfl, utf8_asciiText low, rfl, utf8_injective ?_⟩
  rw [first.whole, utf8_append, utf8_append, utf8_append, utf8_asciiText low, utf8_asciiText ascii]

/-- The label that an input has, if it has one. -/
structure IsLabelOf (input : Bytes) (label? : Option String) : Prop where
  some_iff : ∀ label, label? = some label ↔ ∃ before key after,
    FirstRun input before key (utf8 label) after ∧ ∀ b ∈ utf8 label, b.toNat < 0x80
  /-- There is none where there is no key, or something beyond ASCII behind the first. -/
  none_iff : label? = none ↔ (∀ key, IsKey key → ¬ key <:+: input) ∨ ∃ before key run after,
    FirstRun input before key run after ∧ ∃ b ∈ run, 0x80 ≤ b.toNat
  passes : ∀ label, label? = some label → (checkLabel label).1 = true

theorem isLabelOf_of_firstRun {input before key run after : Bytes}
    (first : FirstRun input before key run after) :
    IsLabelOf input (if isLabel run then some (asciiText run) else none) := by
  split_ifs with isLabel
  · have ascii := first.isLabel_iff.mp isLabel
    have written := utf8_asciiText ascii
    refine ⟨fun label => ⟨?_, ?_⟩, iff_of_false (Option.some_ne_none _) ?_, ?_⟩
    · rintro ⟨rfl⟩
      rw [written]
      exact ⟨before, key, after, first, ascii⟩
    · rintro ⟨_, _, _, other, -⟩
      rw [utf8_injective (written.trans (first.unique other).2.2.1)]
    · rintro (none | ⟨_, _, _, _, other, b, inside, high⟩)
      · exact none key first.isKey first.isInfix
      · rw [← (first.unique other).2.2.1] at inside
        exact absurd (ascii b inside) (by omega)
    · rintro label ⟨rfl⟩
      rw [checkLabel, checkLabelBytes, written, if_pos isLabel]
  · rw [first.isLabel_iff] at isLabel
    refine ⟨fun label => iff_of_false (Option.some_ne_none _).symm ?_, iff_of_true rfl (.inr ?_), ?_⟩
    · rintro ⟨_, _, _, other, ascii⟩
      rw [← (first.unique other).2.2.1] at ascii
      exact isLabel ascii
    · simp only [not_forall, not_lt] at isLabel
      rcases isLabel with ⟨b, inside, high⟩
      exact ⟨before, key, run, after, first, b, inside, high⟩
    · exact fun label none => nomatch none

theorem isLabelOf_parseCharsetBytes (input : Bytes) : IsLabelOf input (parseCharsetBytes input).1 := by
  cases found : afterKey? input with
  | none =>
    have lacks := afterKey?_eq_none_iff.mp found
    have nothing : (parseCharsetBytes input).1 = none := by rw [parseCharsetBytes, found]
    rw [nothing]
    refine ⟨fun label => iff_of_false (Option.some_ne_none _).symm ?_, iff_of_true rfl (.inl lacks), ?_⟩
    · rintro ⟨_, key, _, first, -⟩
      exact lacks key first.isKey first.isInfix
    · exact fun label none => nomatch none
  | some value =>
    rcases exists_firstRun found with ⟨before, key, first⟩
    rw [first.parseCharsetBytes_eq]
    exact isLabelOf_of_firstRun first

/-- The label of an input is the run behind its first key, if that is all ASCII; in any other case
there is none. A run is found in one way only, and in a text it is a part of the text. -/
theorem label_is_first_run :
    (∀ input, IsLabelOf input (parseCharsetBytes input).1) ∧
    (∀ text, IsLabelOf (utf8 text) (parseCharset text).1) ∧
    (∀ value : HeaderValue, IsLabelOf value.bytes value.charset.1) ∧
    (∀ {input before key run after before' key' run' after' : Bytes},
      FirstRun input before key run after → FirstRun input before' key' run' after' →
        before = before' ∧ key = key' ∧ run = run' ∧ after = after') ∧
    ∀ text label, (parseCharset text).1 = some label →
      ∃ before key after : String, text = before ++ key ++ label ++ after ∧
        FirstRun (utf8 text) (utf8 before) (utf8 key) (utf8 label) (utf8 after) := by
  refine ⟨isLabelOf_parseCharsetBytes, fun text => isLabelOf_parseCharsetBytes (utf8 text),
    fun value => isLabelOf_parseCharsetBytes value.bytes, fun first other => first.unique other, ?_⟩
  intro text label found
  rcases ((isLabelOf_parseCharsetBytes (utf8 text)).some_iff label).mp found with
    ⟨before, key, after, first, ascii⟩
  rcases first.exists_strings ascii with ⟨before', key', after', rfl, rfl, rfl, whole⟩
  rw [utf8_injective (utf8_asciiText ascii)] at whole
  exact ⟨before', key', after', whole, first⟩

/-- A key that another word runs into, behind a letter beyond ASCII; and a space beyond ASCII, which
ends no label. -/
theorem label_is_first_run_overlapping :
    (parseCharset "ä; charCharSet=utf-8 charset=ü").1 = some "utf-8" ∧
    (∃ before key after : String, "ä; charCharSet=utf-8 charset=ü" = before ++ key ++ "utf-8" ++ after ∧
      ∀ {before' key' run' after' : Bytes},
        FirstRun (utf8 "ä; charCharSet=utf-8 charset=ü") before' key' run' after' →
          before' = utf8 before ∧ run' = utf8 "utf-8") ∧
    (parseCharset "charset=utf-8\u00a0 charset=latin1").1 = none ∧
    ∃ before key run after,
      FirstRun (utf8 "charset=utf-8\u00a0 charset=latin1") before key run after ∧
        ∃ b ∈ run, 0x80 ≤ b.toNat := by
  rcases label_is_first_run with ⟨-, texts, -, unique, parts⟩
  have found : (parseCharset "ä; charCharSet=utf-8 charset=ü").1 = some "utf-8" := by decide
  have refused : (parseCharset "charset=utf-8\u00a0 charset=latin1").1 = none := by decide
  have present : afterKey? (utf8 "charset=utf-8\u00a0 charset=latin1") ≠ none := by decide
  refine ⟨found, ?_, refused, ?_⟩
  · rcases parts _ _ found with ⟨before, key, after, whole, first⟩
    refine ⟨before, key, after, whole, fun other => ?_⟩
    rcases unique other first with ⟨sameBefore, -, sameRun, -⟩
    exact ⟨sameBefore, sameRun⟩
  · refine ((texts _).none_iff.mp refused).resolve_left fun lacks => present ?_
    exact afterKey?_eq_none_iff.mpr lacks

end LinkCharset.Label
