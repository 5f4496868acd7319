import LinkCharset.Proofs.Codec.Web

/-! # The codecs of the web make progress

Room for a character and a shift sequence is enough for a call to do something, and all that the
calls of a conversion write is part of its output. So every conversion ends, and ends well. What a
call says it has read is within its input but for one case: ISO-2022-JP reports a shift control as a
character of three bytes, and goes back by as many from behind it, be there so many or not. -/
namespace LinkCharset

open Iso2022Jp (isShiftControl)

/-- A call that goes back from behind a shift control to before its input. A difference of words
does not fall below zero, so that the call says it has read far more than there is. -/
def Call.Overshoots : Call → Prop
  | .convert given _ report =>
    report.status = .invalid ∧ ∃ n < 2, ∃ b, given[n]? = some b ∧ isShiftControl b.toNat = true ∧
      report.read + 2 = wordSize + n
  | _ => False

namespace WebSession

open Transcode

theorem overshoots_of_encode {state : Iso2022Jp.encoder.State} {left : Bytes} {room : ℕ}
    (beyond : left.length < (Iso2022Jp.encoder.convert state left room).1.read) :
    (Call.convert left room (Iso2022Jp.encoder.convert state left room).1).Overshoots := by
  rcases Iso2022Jp.lawful_encoder.read_convert state left room with
    within | ⟨c, n, shifts, starts, status, read⟩
  · omega
  · have three : (Utf8.encodeChar '\uFFFD').length = 3 := by decide
    have large : 3 ≤ wordSize := by decide
    rcases Iso2022Jp.encodeChar_of_shiftControl shifts with ⟨written, value⟩
    rw [written] at starts read
    rcases starts with ⟨rest, front⟩
    have here : left[n]? = some (.ofNat c.toNat) := by
      rw [← Nat.add_zero n, ← List.getElem?_drop, ← front]
      rfl
    have inside : n < left.length := (List.getElem?_eq_some_iff.mp here).1
    rw [three, wordSub, List.length_singleton] at read
    split_ifs at read with enough
    · omega
    · exact ⟨status, n, by omega, _, here, by rw [value]; exact shifts, by omega⟩

/-- A call keeps to its input and to its room, unless it goes back from behind a shift control. -/
theorem isBounded_or_overshoots {s : WebSession} {left : Bytes} (room : ℕ) (fits : s.Fits left) :
    (Call.convert left room (s.convert left room).1).IsBounded ∨
      (∃ state, s = .encode .iso2022Jp state) ∧
        (Call.convert left room (s.convert left room).1).Overshoots := by
  rcases spends room fits with ⟨⟨written, inside⟩, -⟩
  by_cases read : (s.convert left room).1.read ≤ left.length
  · exact .inl ⟨read, written.trans_le inside⟩
  cases s with
  | decode source mode => exact absurd (source.decoder_sound.renders fits room).1 read
  | encode target state =>
    by_cases jp : target = .iso2022Jp
    · subst jp
      exact .inr ⟨⟨state, rfl⟩, overshoots_of_encode (Nat.lt_of_not_le read)⟩
    · rcases target.encoder_lawful.read_convert state left room with within | ⟨c, -, refuses, -⟩
      · exact absurd within read
      · rw [Encoding.refuses_eq_false jp] at refuses
        cases refuses

theorem encode_of_convert {s : WebSession} {left : Bytes} {room : ℕ} {e : Encoding}
    {state : e.encoder.State} (encodes : (s.convert left room).2 = .encode e state) :
    ∃ state, s = .encode e state := by
  cases s with
  | decode source mode => cases encodes
  | encode target before =>
    obtain rfl : target = e := (WebSession.encode.inj encodes).1
    exact ⟨before, rfl⟩

theorem calls_bounded_or_overshoot {session : WebSession} {input : Bytes} (fits : session.Fits input)
    (opened : ∃ e, session = decoding e ∨ session = encoding e) (n : ℕ) :
    ∀ call ∈ (opening webCodec input.length n (start session input)).calls,
      call.IsBounded ∨ session = encoding .iso2022Jp ∧ call.Overshoots ∧
        ∃ b ∈ input, isShiftControl b.toNat = true := by
  refine calls_opening (P := fun s => s.codec.Fits s.remaining ∧ s.remaining <:+ input ∧
    ∀ state, s.codec = .encode .iso2022Jp state → session = encoding .iso2022Jp) ?_ ?_
    ⟨fits, List.suffix_rfl, ?_⟩ n
  · rintro s trace next ⟨fits, suffix, same⟩ goesOn
    have carries := turn_carries input.length (webPacing.written_le fits)
    rw [goesOn] at carries
    rcases carries with ⟨-, -, -, codec, remaining, -⟩
    refine ⟨(webPacing.work_turn fits goesOn).1, ?_, fun state encodes => ?_⟩
    · rw [remaining]
      exact (List.drop_suffix _ _).trans suffix
    · rw [codec] at encodes
      rcases encode_of_convert encodes with ⟨before, here⟩
      exact same before here
  · rintro s ⟨fits, suffix, same⟩
    rw [Move.call, length_offered_moveAt]
    rcases isBounded_or_overshoots s.buffer.room fits with bounded | ⟨⟨state, encodes⟩, overshoots⟩
    · exact .inl bounded
    · refine .inr ⟨same state encodes, overshoots, ?_⟩
      rcases overshoots with ⟨-, n, -, b, here, shifts, -⟩
      exact ⟨b, suffix.subset (List.mem_of_getElem? here), shifts⟩
  · rcases opened with ⟨e, rfl | rfl⟩
    · rintro state encodes
      cases encodes
    · rintro state encodes
      obtain rfl : e = .iso2022Jp := (WebSession.encode.inj encodes).1
      rfl

theorem isFrank_nil (session : WebSession) : session.IsFrank [] := by
  cases session with
  | decode source mode => trivial
  | encode target state =>
    intro c within
    have some := Utf8.length_encodeChar_pos c
    rw [List.infix_nil.mp within] at some
    exact absurd some (Nat.lt_irrefl 0)

theorem transcode_progresses {session : WebSession} {input : Bytes} (fits : session.Fits input)
    (nothing : session.made [] = []) :
    ∃ output : Bytes, (transcode webCodec session input).result = .ok ⟨output ++ [0]⟩ ∧
      Progresses webCodec input.length (start session input) charRoom output.length := by
  by_cases empty : input = []
  · subst empty
    have frankly : webRendering.Fits session [] := ⟨fits, isFrank_nil session⟩
    rcases webPacing.runFrom_ends 0 (s := start session []) fits (Nat.lt_succ_self _) with
      ⟨run, output, stops, result, written, calls⟩
    rcases runFrom_makes stops fun call made => (calls call made).1.fitsRoom with
      ⟨moves, -, -, makes, outcome⟩
    rw [outcome, webRendering.outcome_eq frankly makes] at result
    have made : (session.made []).bytes = output :=
      List.append_cancel_right (Transcoded.mk.inj (Except.ok.inj result))
    rw [nothing] at made
    subst made
    exact ⟨[], (transcode_eq frankly nothing).1.trans (by rw [nothing]; rfl),
      progresses_of_run stops (fun call made => (calls call made).1)
        (fun call made => (calls call made).2) written⟩
  · rcases webPacing.transcode_ends fits empty (callLimit_webCodec session input) with
      ⟨output, stops, result, written, calls⟩
    exact ⟨output, result, progresses_of_run stops (fun call made => (calls call made).1)
      (fun call made => (calls call made).2) written⟩

/-- A run ends, whatever its codec reports, if it has bytes to spend: if the codec does nothing only
where it has little room, and writes only so much. It then takes a number of calls that these bounds
and the length of the input settle, and it fails only if the codec fails. The codecs of the web are
such codecs, with the output itself as the bound on what they write, so that their conversions end
well. But behind a shift control ISO-2022-JP may say that it has read more than there is. -/
theorem conversions_end (input : Bytes) :
    (∀ {σ : Type} (c : Codec σ) (codec : σ) (K W : ℕ),
      Progresses c input.length (start codec input) K W →
        ∃ run, run? c (callBound input.length K W) codec input = some run ∧
          run.trace.calls.length ≤ callBound input.length K W ∧
          ∀ failure, run.result = .error failure → ∃ code, failure = .codec code) ∧
    ∀ {source target : String} {event : Event} {session : WebSession},
      open? source target = .ok (event, session) → ∃ output : Bytes,
        Progresses webCodec input.length (start session input) 8 output.length ∧
        run? webCodec (callBound input.length 8 output.length) session input =
          some (transcode webCodec session input) ∧
        (transcode webCodec session input).result = .ok ⟨output ++ [0]⟩ ∧
        ∀ n, ∀ call ∈ (opening webCodec input.length n (start session input)).calls,
          call.IsBounded ∨ session = encoding .iso2022Jp ∧ call.Overshoots ∧
            ∃ b ∈ input, isShiftControl b.toNat = true := by
  refine ⟨fun _ _ _ _ => run?_stops, fun {source target event session} opened => ?_⟩
  rcases fits_of_open opened input with ⟨fits, nothing⟩
  rcases transcode_progresses fits nothing with ⟨output, result, progresses⟩
  have ample : Progresses webCodec input.length (start session input) 8 output.length :=
    progresses.mono (by decide)
  rcases run?_stops ample with ⟨run, stops, -⟩
  obtain rfl := eq_transcode_of_run? stops (by simp [result])
  exact ⟨output, ample, stops, result, calls_bounded_or_overshoot fits (session_cases opened)⟩

/-- A codec that fills its room without reading, then asks for more room than it has use for, then
cannot read a byte that is cut off, and at last one that is none; and a shift control behind a
hiragana. -/
theorem conversions_end_erratic :
    (∃ (codec : Scripted WebSession) (run : Run (Scripted WebSession)),
      codec = .ofScript [⟨.outputFull, some 0, .fill, none⟩, ⟨.outputFull, some 0, .bytes [], none⟩,
        ⟨.incomplete, some 0, .bytes [], none⟩] 0 (.identity 0xFF) ∧
      Progresses (Scripted.codec webCodec) 2 (start codec [0x61, 0xFF]) 5 4 ∧
      run? (Scripted.codec webCodec) 10 codec [0x61, 0xFF] = some run ∧
      run.trace.calls.length ≤ 10) ∧
    ∃ session, open? "utf-8" "iso-2022-jp" = .ok (.openedEncoder "ISO-2022-JP", session) ∧
      ∃ output : Bytes,
        Progresses webCodec 4 (start session [0xE3, 0x81, 0x82, 0x0E]) 8 output.length ∧
        (transcode webCodec session [0xE3, 0x81, 0x82, 0x0E]).result = .ok ⟨output ++ [0]⟩ := by
  constructor
  · obtain ⟨run, stops⟩ : ∃ run, runFrom (Scripted.codec webCodec) 2 4
        (start (.ofScript [⟨.outputFull, some 0, .fill, none⟩, ⟨.outputFull, some 0, .bytes [], none⟩,
          ⟨.incomplete, some 0, .bytes [], none⟩] 0 (.identity 0xFF)) [0x61, 0xFF]) = some run :=
      ⟨_, rfl⟩
    have bounded : ∀ call ∈ run.trace.calls, call.IsBounded := by
      cases stops
      decide
    have steady : ∀ call ∈ run.trace.calls, call.IsSteady := fun call made => (bounded call made).isSteady
    have moves : ∀ call ∈ run.trace.calls, call.IsIdle → call.room < 5 := by
      cases stops
      decide
    have writes : (run.trace.calls.map Call.written).sum ≤ 4 := by
      cases stops
      decide
    have progresses := progresses_of_run stops steady moves writes
    rcases (conversions_end [0x61, 0xFF]).1 _ _ 5 4 progresses with ⟨run, stops, few, -⟩
    exact ⟨_, run, rfl, progresses, stops, few⟩
  · have opened : open? "utf-8" "iso-2022-jp" =
        .ok (.openedEncoder "ISO-2022-JP", encoding .iso2022Jp) := by rfl
    rcases (conversions_end [0xE3, 0x81, 0x82, 0x0E]).2 opened with ⟨output, progresses, -, result, -⟩
    exact ⟨_, opened, output, progresses, result⟩

/-- A shift control by itself: three bytes back from behind it is two words' steps below zero. -/
theorem read_exceeds_input :
    open? "utf-8" "iso-2022-jp" = .ok (.openedEncoder "ISO-2022-JP", encoding .iso2022Jp) ∧
    ((encoding .iso2022Jp).convert [0x0E] 16).1 = ⟨0xFFFFFFFFFFFFFFFE, 0, .invalid, []⟩ ∧
    ¬ (Call.convert [0x0E] 16 ((encoding .iso2022Jp).convert [0x0E] 16).1).IsBounded := by
  have report : ((encoding .iso2022Jp).convert [0x0E] 16).1 = ⟨0xFFFFFFFFFFFFFFFE, 0, .invalid, []⟩ := by
    decide +kernel
  exact ⟨by rfl, report, by rw [report]; decide⟩

end WebSession

end LinkCharset
