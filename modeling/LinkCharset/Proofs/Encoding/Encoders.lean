import LinkCharset.Encoding
import LinkCharset.Proofs.Codec.Encoding

/-! # The encoders write a little at a time

All but one of them write the same bytes for a character wherever it stands. ISO-2022-JP shifts
before some characters, and never twice in a row. -/
namespace LinkCharset

theorem Encoder.lawful_stateless {m : Margin} {bytes? : Char → Option Bytes}
    (roomy : max m.ascii m.other < charRoom)
    (small : ∀ c bytes, bytes? c = some bytes → bytes.length ≤ charRoom) :
    (Encoder.stateless m bytes?).Lawful where
  wants_lt busy c := m.wants_lt roomy busy c.toNat
  settles shifts := by cases shifts
  shift_le shifts := by cases shifts
  bytes_le {_ c bytes} has := small c bytes has
  closing_le closes := by cases closes

theorem Utf8.lawful_encoder : Utf8.encoder.Lawful := by
  apply Encoder.lawful_stateless (by decide)
  intro c bytes has
  obtain rfl := Option.some.inj has
  exact (length_encodeChar_le c).trans (by decide)

theorem SingleByte.lawful_encoder (t : SingleByte) : t.encoder.Lawful := by
  apply Encoder.lawful_stateless (by decide)
  intro c bytes has
  rcases Option.map_eq_some_iff.mp has with ⟨b, -, rfl⟩
  simp [charRoom]

theorem length_le_of_map {p? : Option ℕ} {positionBytes : ℕ → Bytes} {bytes : Bytes}
    (few : ∀ p, (positionBytes p).length ≤ 4) (has : p?.map positionBytes = some bytes) :
    bytes.length ≤ charRoom := by
  rcases Option.map_eq_some_iff.mp has with ⟨p, -, rfl⟩
  exact (few p).trans (by decide)

theorem length_le_of_some {byte : UInt8} {bytes : Bytes} (has : some [byte] = some bytes) :
    bytes.length ≤ charRoom := by
  obtain rfl := Option.some.inj has
  simp [charRoom]

theorem length_le_of_cellBytes {grid : Grid} {base : UInt8} {c : Char} {bytes : Bytes}
    (has : Jis.cellBytes? grid base c = some bytes) : bytes.length ≤ charRoom :=
  length_le_of_map (fun _ => by simp) has

theorem ShiftJis.lawful_encoder : ShiftJis.encoder.Lawful := by
  apply Encoder.lawful_stateless (by decide)
  intro c bytes has
  rw [bytes?] at has
  split_ifs at has
  · exact length_le_of_some has
  · exact length_le_of_some has
  · exact length_le_of_some has
  · exact length_le_of_some has
  · exact length_le_of_map (fun p => by simp [positionBytes]) has

theorem EucJp.lawful_encoder : EucJp.encoder.Lawful := by
  apply Encoder.lawful_stateless (by decide)
  intro c bytes has
  rw [bytes?] at has
  split_ifs at has
  · exact length_le_of_some has
  · exact length_le_of_some has
  · exact length_le_of_some has
  · obtain rfl := Option.some.inj has
    simp [charRoom]
  · exact length_le_of_cellBytes has

theorem EucKr.lawful_encoder : EucKr.encoder.Lawful := by
  apply Encoder.lawful_stateless (by decide)
  intro c bytes has
  rw [bytes?] at has
  split_ifs at has
  · exact length_le_of_some has
  · exact length_le_of_map (fun p => by simp [positionBytes]) has

theorem Big5.lawful_encoder : Big5.encoder.Lawful := by
  apply Encoder.lawful_stateless (by decide)
  intro c bytes has
  rw [bytes?] at has
  split_ifs at has
  · exact length_le_of_some has
  · exact length_le_of_map (fun p => by simp [positionBytes]) has

namespace Gb

theorem lawful_gbkEncoder : gbkEncoder.Lawful := by
  apply Encoder.lawful_stateless (by decide)
  intro c bytes has
  rw [gbkBytes?] at has
  split_ifs at has
  · exact length_le_of_some has
  · exact length_le_of_some has
  · exact length_le_of_map (fun p => by simp [pairBytes]) has

theorem lawful_gb18030Encoder : gb18030Encoder.Lawful := by
  apply Encoder.lawful_stateless (by decide)
  intro c bytes has
  rw [gb18030Bytes?] at has
  split_ifs at has
  · exact length_le_of_some has
  · cases pairs : pairPosition? c with
    | some p =>
      simp only [pairs, Option.some.injEq] at has
      subst has
      simp [pairBytes, charRoom]
    | none =>
      simp only [pairs] at has
      exact length_le_of_map (fun p => by simp [groupBytes]) has

end Gb

namespace Iso2022Jp

theorem length_escape (mode : Mode) : (escape mode).length = 3 := by
  cases mode <;> rfl

theorem switch?_eq_some {mode target next : Mode} {shift : Bytes}
    (switches : switch? mode target = some (shift, next)) : shift = escape target ∧ next = target := by
  rw [switch?] at switches
  split_ifs at switches
  cases switches
  exact ⟨rfl, rfl⟩

theorem target_of_ascii {c : Char} (ascii : c.toNat < 0x80) (mode : Mode) :
    target mode c = if mode = .roman ∧ !isAsciiOnly c then .roman else .ascii := by
  rw [target, modeFor?, if_pos ascii]
  by_cases stays : mode = .roman ∧ !isAsciiOnly c
  · rw [if_pos stays, if_pos stays]
  · rw [if_neg stays, if_neg stays]

/-- The mode for a character is right for it once it has been entered. -/
theorem target_target (mode : Mode) (c : Char) : target (target mode c) c = target mode c := by
  by_cases ascii : c.toNat < 0x80
  · rw [target_of_ascii ascii, target_of_ascii ascii]
    by_cases stays : mode = .roman ∧ !isAsciiOnly c
    · rw [if_pos stays, if_pos ⟨rfl, stays.2⟩]
    · rw [if_neg stays, if_neg (fun again => nomatch again.1)]
  · have same (m : Mode) : modeFor? m c = modeFor? mode c := by
      simp only [modeFor?, if_neg ascii]
    unfold target
    rw [same]
    cases modeFor? mode c with
    | some m => rfl
    | none => cases mode <;> rfl

theorem encodeChar_of_shiftControl {c : Char} (shifts : isShiftControl c.toNat = true) :
    Utf8.encodeChar c = [.ofNat c.toNat] ∧ (UInt8.ofNat c.toNat).toNat = c.toNat := by
  have ascii : c.toNat < 0x80 := by
    simp only [isShiftControl, Bool.or_eq_true, beq_iff_eq] at shifts
    omega
  exact ⟨if_pos ascii, UInt8.toNat_ofNat_of_lt' (by change _ < 256; omega)⟩

/-- A character that would shift by itself is one of the bytes of its input. -/
theorem isShiftControl_eq_false {input : Bytes} (plain : ∀ b ∈ input, isShiftControl b.toNat = false)
    {c : Char} (within : Utf8.encodeChar c <:+: input) : isShiftControl c.toNat = false := by
  by_contra shifts
  rw [Bool.not_eq_false] at shifts
  rcases encodeChar_of_shiftControl shifts with ⟨written, value⟩
  rw [written] at within
  have inside := plain _ (within.subset (List.mem_singleton_self _))
  rw [value, shifts] at inside
  cases inside

theorem lawful_encoder : Iso2022Jp.encoder.Lawful where
  wants_lt _ _ := (by decide : itemRoom < charRoom)
  settles {mode next c shift} switches := by
    rcases switch?_eq_some switches with ⟨-, rfl⟩
    change switch? (target mode c) (target (target mode c) c) = none
    rw [target_target, switch?, if_pos rfl]
  shift_le {mode next c shift} switches := by
    rcases switch?_eq_some switches with ⟨rfl, -⟩
    rw [length_escape]
    decide
  bytes_le {mode c bytes} has := by
    change bytes? mode c = some bytes at has
    rw [bytes?] at has
    split_ifs at has
    · exact length_le_of_some has
    · exact length_le_of_some has
    · exact length_le_of_some has
    · exact length_le_of_cellBytes has
  closing_le {mode next bytes} switches := by
    rcases switch?_eq_some switches with ⟨rfl, -⟩
    rw [length_escape]
    decide

end Iso2022Jp

namespace Encoding

theorem encoder_lawful : ∀ e : Encoding, e.encoder.Lawful
  | utf8 => Utf8.lawful_encoder
  | utf16 _ => Utf8.lawful_encoder
  | replacement => Utf8.lawful_encoder
  | singleByte table => table.lawful_encoder
  | shiftJis => ShiftJis.lawful_encoder
  | eucJp => EucJp.lawful_encoder
  | iso2022Jp => Iso2022Jp.lawful_encoder
  | gbk => Gb.lawful_gbkEncoder
  | gb18030 => Gb.lawful_gb18030Encoder
  | big5 => Big5.lawful_encoder
  | eucKr => EucKr.lawful_encoder

theorem refuses_eq_false {e : Encoding} (other : e ≠ .iso2022Jp) (c : Char) :
    e.encoder.refuses c = false := by
  cases e <;> first | rfl | exact absurd rfl other

theorem isFrank {e : Encoding} {input : Bytes}
    (plain : e = .iso2022Jp → ∀ b ∈ input, Iso2022Jp.isShiftControl b.toNat = false) :
    e.encoder.IsFrank input := by
  intro c within
  by_cases jp : e = .iso2022Jp
  · subst jp
    exact Iso2022Jp.isShiftControl_eq_false (plain rfl) within
  · exact refuses_eq_false jp c

end Encoding

end LinkCharset
