import LinkCharset.Proofs.Codec.Splitting
import LinkCharset.Proofs.Session.Ascii
import LinkCharset.Proofs.Session.SingleByte
import LinkCharset.Proofs.Utf8.Validation

/-! # Hosts on their way to an ASCII form

A host that is said to be UTF-8 goes the way that any other goes once it has been converted: a text
is passed on as it is, once, and other bytes are refused for their first fault. The bytes that a
conversion copies may come to be a text by accident, which is seen from each run of them that stands
between characters. -/
namespace LinkCharset

namespace Segment

/-- The bytes that are copied between two characters, or before the first or behind the last, put
together; `run` are those before. A shift sequence leaves no trace in the output, so that the bytes
on both its sides come to stand together. -/
def copiedRuns (run : Bytes) : List Segment → List Bytes
  | [] => [run]
  | .copied b :: rest => copiedRuns (run ++ [b]) rest
  | .sequence _ [] :: rest => copiedRuns run rest
  | .sequence _ (_ :: _) :: rest => run :: copiedRuns [] rest

theorem isText_output_iff (run : Bytes) (segments : List Segment) :
    Utf8.IsText (run ++ segments.flatMap output) ↔ ∀ bytes ∈ copiedRuns run segments, Utf8.IsText bytes := by
  fun_induction copiedRuns run segments with
  | case1 run => simp
  | case2 run b rest ih =>
    rw [← ih, List.flatMap_cons, ← List.append_assoc]
    rfl
  | case3 run bytes rest ih => rw [← ih, List.flatMap_cons, output, Utf8.encode_nil, List.nil_append]
  | case4 run bytes c cs rest ih =>
    rw [List.forall_mem_cons, ← ih, List.flatMap_cons, output, Utf8.encode_cons, List.append_assoc,
      ← List.append_assoc, Utf8.isText_append_encodeChar, Utf8.isText_encode_append, List.nil_append]

end Segment

/-! The calls on the conversion of host names. -/

instance : DecidablePred Call.IsIdn
  | .toAscii _ | .toUnicode _ => isTrue trivial
  | .openSession .. | .convert .. | .reset | .close | .detect => isFalse id

def Trace.idnCalls (trace : Trace) : List Call := trace.calls.filter (·.IsIdn)

@[simp] theorem Trace.idnCalls_append (t u : Trace) :
    Trace.idnCalls (t ++ u) = t.idnCalls ++ u.idnCalls := by
  rw [idnCalls, calls_append, List.filter_append]
  rfl

theorem SingleByte.map_some_filterMap (t : SingleByte) {input : Bytes}
    (assigned : ∀ b ∈ input, (t.char? b).isSome) :
    (input.filterMap t.char?).map some = input.map t.char? := by
  induction input with
  | nil => rfl
  | cons b rest ih =>
    rcases List.forall_mem_cons.mp assigned with ⟨here, later⟩
    rcases Option.isSome_iff_exists.mp here with ⟨c, has⟩
    rw [List.filterMap_cons_some has, List.map_cons, ih later, List.map_cons, has]

namespace Session

section Hosts

variable {ω σ : Type} (k : Collaborators ω σ) (s : Session ω σ)

/-- What becomes of a host that is passed on if it is UTF-8. -/
structure PassesOn (host : Bytes) (o : Outcome ω σ (Except HostError String)) : Prop where
  /-- Just the text that the host is gets passed on, once, and nothing besides. -/
  asks_iff : ∀ text, o.trace.idnCalls = [.toAscii text] ↔ utf8 text = host
  idle_iff : o.trace.idnCalls = [] ↔ ¬ Utf8.IsText host
  /-- The answer is passed back. -/
  answers : ∀ text, utf8 text = host →
    o.value = (k.toAscii s.world text).1.mapError (.idn .encode)
  /-- Just other bytes are refused, for their first fault. -/
  refuses_iff : ∀ reason, o.value = .error (.invalidUtf8 reason) ↔
    ∃ fault, Utf8.IsFirstFault host fault ∧ reason = fault.message

theorem idnCalls_remoteToUtf8 (input : Bytes) : (s.remoteToUtf8 k input).trace.idnCalls = [] := by
  rw [Trace.idnCalls, List.filter_eq_nil_iff]
  intro call made
  simpa using not_isIdn_remoteToUtf8 k s input call made

theorem value_idnResult (operation : IdnOperation) (host : String) (answer : Except IdnError String) :
    (idnResult operation host answer).1 = answer.mapError (.idn operation) := by
  cases answer <;> rfl

theorem encodeHost_utf8 (text : String) :
    (s.encodeHost k (utf8 text)).value = (k.toAscii s.world text).1.mapError (.idn .encode) ∧
      (s.encodeHost k (utf8 text)).trace.idnCalls = [.toAscii text] := by
  rw [encodeHost, utf8, Utf8.validate_encode]
  dsimp only
  rw [String.ofList_toList]
  refine ⟨value_idnResult .encode text _, ?_⟩
  rw [Trace.idnCalls, Trace.calls_cons_call, calls_idnResult]
  rfl

theorem encodeHost_of_fault {host : Bytes} {fault : Utf8.Fault} (isFirst : Utf8.IsFirstFault host fault) :
    s.encodeHost k host = ⟨.error (.invalidUtf8 fault.message), [], s⟩ := by
  rw [encodeHost, Utf8.validate_eq_error_iff.mpr isFirst]

/-- What a host is passed on to fails in a way of its own. -/
theorem isIdn_of_mapError {answer : Except IdnError String} {operation : IdnOperation} {failure : HostError}
    (fails : answer.mapError (.idn operation) = .error failure) : ∃ cause, failure = .idn operation cause := by
  cases answer with
  | ok converted => cases fails
  | error cause =>
    cases fails
    exact ⟨cause, rfl⟩

theorem encodeHost_ne_transcode (host : Bytes) (e : TranscodeError) :
    (s.encodeHost k host).value ≠ .error (.transcode e) := by
  intro fails
  by_cases isText : Utf8.IsText host
  · rcases isText with ⟨text, rfl⟩
    rw [(s.encodeHost_utf8 k text).1] at fails
    rcases isIdn_of_mapError fails with ⟨cause, other⟩
    cases other
  · rcases Utf8.not_isText_iff.mp isText with ⟨fault, isFirst⟩
    rw [encodeHost_of_fault k s isFirst] at fails
    cases fails

theorem passesOn_encodeHost (host : Bytes) : s.PassesOn k host (s.encodeHost k host) := by
  by_cases isText : Utf8.IsText host
  · rcases isText with ⟨text, rfl⟩
    rcases s.encodeHost_utf8 k text with ⟨value, calls⟩
    refine ⟨fun other => ?_, ?_, fun other same => ?_, fun reason => ?_⟩
    · rw [calls, utf8_injective.eq_iff, List.cons_eq_cons, Call.toAscii.injEq, eq_comm]
      exact and_iff_left rfl
    · rw [calls]
      exact iff_of_false (List.cons_ne_nil _ _) (not_not_intro ⟨text, rfl⟩)
    · rw [value, utf8_injective same]
    · refine iff_of_false (fun refused => ?_) fun ⟨fault, isFirst, _⟩ => ?_
      · rw [value] at refused
        rcases isIdn_of_mapError refused with ⟨cause, other⟩
        cases other
      · exact Utf8.not_isText_iff.mpr ⟨fault, isFirst⟩ ⟨text, rfl⟩
  · rcases Utf8.not_isText_iff.mp isText with ⟨fault, isFirst⟩
    rw [encodeHost_of_fault k s isFirst]
    refine ⟨fun text => ?_, iff_of_true rfl isText, fun text same => ?_, fun reason => ?_⟩
    · exact iff_of_false (fun asked => nomatch asked) fun same => isText ⟨text, same⟩
    · exact absurd ⟨text, same⟩ isText
    · constructor
      · intro refused
        cases refused
        exact ⟨fault, isFirst, rfl⟩
      · rintro ⟨other, isFirst', rfl⟩
        rw [Utf8.firstFault_unique isFirst' isFirst]

variable {k s} {host : Bytes}

/-- Nothing that is done before a host is passed on matters, if it leaves alone what hosts are
passed on to. -/
theorem PassesOn.after {o : Outcome ω σ (Except HostError String)} (passes : s.PassesOn k host o)
    {before : Trace} (idle : before.idnCalls = []) :
    s.PassesOn k host { o with trace := before ++ o.trace } where
  asks_iff text := by rw [Trace.idnCalls_append, idle, List.nil_append, passes.asks_iff]
  idle_iff := by rw [Trace.idnCalls_append, idle, List.nil_append, passes.idle_iff]
  answers := passes.answers
  refuses_iff := passes.refuses_iff

theorem PassesOn.isRefused_iff {o : Outcome ω σ (Except HostError String)} (passes : s.PassesOn k host o) :
    (∃ reason, o.value = .error (.invalidUtf8 reason)) ↔ ¬ Utf8.IsText host := by
  rw [Utf8.not_isText_iff]
  constructor
  · rintro ⟨reason, refused⟩
    rcases (passes.refuses_iff reason).mp refused with ⟨fault, isFirst, -⟩
    exact ⟨fault, isFirst⟩
  · rintro ⟨fault, isFirst⟩
    exact ⟨_, (passes.refuses_iff _).mpr ⟨fault, isFirst, rfl⟩⟩

/-- What a conversion has given goes on as if it had been UTF-8 from the start. -/
theorem idnEncode_of_ok {converted : Transcoded} (converts : (s.remoteToUtf8 k host).value = .ok converted) :
    s.idnEncode k host false =
      { (s.remoteToUtf8 k host).session.idnEncode k converted.bytes true with
        trace := (s.remoteToUtf8 k host).trace ++
          ((s.remoteToUtf8 k host).session.idnEncode k converted.bytes true).trace } := by
  rw [idnEncode, if_neg (by simp), Outcome.andThen, converts, idnEncode, if_pos rfl]

theorem bytes_ne_of_judgeRemote {source : String} {input : Bytes}
    {result : Except TranscodeError Transcoded} {output : Transcoded}
    (passes : (judgeRemote source input result).1 = .ok output) : output.bytes ≠ input := by
  cases result with
  | error e => cases passes
  | ok made =>
    rw [judgeRemote] at passes
    split_ifs at passes with same
    cases passes
    exact same

theorem bytes_ne_of_remoteToUtf8 {converted : Transcoded} :
    (s.remoteToUtf8 k host).value = .ok converted → converted.bytes ≠ host := by
  rw [remoteToUtf8]
  cases s.remoteSource? with
  | none =>
    intro converts
    cases converts
  | some label =>
    dsimp only
    cases (k.openSession s.world label utf8Label).1 with
    | error cause =>
      intro converts
      cases converts
    | ok codec => exact bytes_ne_of_judgeRemote

theorem value_encodeHost_of_steady
    (steady : ∀ world world' text, (k.toAscii world text).1 = (k.toAscii world' text).1)
    (s s' : Session ω σ) (host : Bytes) : (s.encodeHost k host).value = (s'.encodeHost k host).value := by
  unfold encodeHost
  cases Utf8.validate host with
  | error fault => rfl
  | ok chars =>
    dsimp only
    rw [steady s.world s'.world]

variable (k s host)

/-- The two ways of a host, by what it is said to be, in any session and whatever answers. -/
structure EncodesAlike : Prop where
  direct : s.PassesOn k host (s.idnEncode k host true)
  givesUp_iff : ∀ e, (s.idnEncode k host false).value = .error (.transcode e) ↔
    (s.remoteToUtf8 k host).value = .error e
  givesUp_idle : ∀ e, (s.remoteToUtf8 k host).value = .error e →
    (s.idnEncode k host false).trace.idnCalls = []
  /-- A conversion changes the world at most. -/
  frame : (s.remoteToUtf8 k host).session = { s with world := (s.remoteToUtf8 k host).session.world }
  differs : ∀ converted, (s.remoteToUtf8 k host).value = .ok converted → converted.bytes ≠ host
  /-- In the world that the conversion leaves, the two ways are the same from there on. -/
  goesOn : ∀ converted, (s.remoteToUtf8 k host).value = .ok converted →
    s.idnEncode k host false =
      { (s.remoteToUtf8 k host).session.idnEncode k converted.bytes true with
        trace := (s.remoteToUtf8 k host).trace ++
          ((s.remoteToUtf8 k host).session.idnEncode k converted.bytes true).trace }
  passes : ∀ converted, (s.remoteToUtf8 k host).value = .ok converted →
    (s.remoteToUtf8 k host).session.PassesOn k converted.bytes (s.idnEncode k host false)
  /-- So they come to the same where answers do not depend on the world. -/
  agree : (∀ world world' text, (k.toAscii world text).1 = (k.toAscii world' text).1) →
    ∀ converted, (s.remoteToUtf8 k host).value = .ok converted →
      (s.idnEncode k host false).value = (s.idnEncode k converted.bytes true).value

theorem encodesAlike : s.EncodesAlike k host where
  direct := by
    rw [idnEncode, if_pos rfl]
    exact s.passesOn_encodeHost k host
  givesUp_iff e := by
    refine ⟨fun fails => ?_, fun fails => (idnEncode_of_error fails).1⟩
    cases converts : (s.remoteToUtf8 k host).value with
    | error e' =>
      rw [(idnEncode_of_error converts).1] at fails
      cases fails
      rfl
    | ok converted =>
      rw [idnEncode_of_ok converts, idnEncode, if_pos rfl] at fails
      exact absurd fails (encodeHost_ne_transcode k _ converted.bytes e)
  givesUp_idle e fails := by rw [(idnEncode_of_error fails).2, idnCalls_remoteToUtf8]
  frame := by
    rcases s.session_remoteToUtf8 k host with ⟨world, left⟩
    rw [left]
  differs _ := bytes_ne_of_remoteToUtf8
  goesOn _ := idnEncode_of_ok
  passes converted converts := by
    rw [idnEncode_of_ok converts, idnEncode, if_pos rfl]
    exact (passesOn_encodeHost k _ converted.bytes).after (s.idnCalls_remoteToUtf8 k host)
  agree steady converted converts := by
    rw [idnEncode_of_ok converts, idnEncode, if_pos rfl, idnEncode, if_pos rfl]
    exact value_encodeHost_of_steady steady _ _ _

end Hosts

variable {ω : Type} {k : Collaborators ω WebSession} (web : k.OpensWeb) {label : String}
include web

section Assigned

variable {t : SingleByte} (resolves : Encoding.ofLabel? label = some (.singleByte t))
  (assigned : ∀ b, (t.char? b).isSome)
include resolves assigned

/-- A host that is not all ASCII is converted to the text that its bytes stand for. -/
theorem remoteToUtf8_of_assigned {s : Session ω WebSession} (source : s.remoteSource? = some label)
    {host : Bytes} (high : ∃ b ∈ host, 0x80 ≤ b.toNat) :
    ∃ converted, (s.remoteToUtf8 k host).value = .ok converted ∧
      converted.bytes = utf8 (String.ofList (host.filterMap t.char?)) := by
  have decoded : host.flatMap t.decoded = Utf8.encode (host.filterMap t.char?) := by
    rw [← t.bytes_made, t.made_eq, SingleByte.flatMap_marked_of_assigned fun b _ => assigned b,
      Marked.bytes_converted]
  have changed : host.flatMap t.decoded ≠ host := by
    rw [Ne, t.flatMap_decoded_eq_iff]
    intro none
    rcases high with ⟨b, inside, upper⟩
    exact Option.isSome_iff_ne_none.mp (assigned b) (none b inside upper)
  refine ⟨⟨host.flatMap t.decoded ++ [0]⟩, ?_, ?_⟩
  · rw [remoteToUtf8_of_result web resolves source (WebSession.transcode_singleByte t host).1,
      if_neg changed]
  · rw [Transcoded.bytes_mk, decoded, utf8, String.toList_ofList]

end Assigned

section Decoding

variable {e : Encoding} (resolves : Encoding.ofLabel? label = some e)
include resolves

theorem copiedBytes_remoteToUtf8 {s : Session ω WebSession} (source : s.remoteSource? = some label)
    (host : Bytes) : (s.remoteToUtf8 k host).trace.copiedBytes =
      (transcode webCodec (.decoding e) host).trace.copiedBytes := by
  rcases judgeRemote_logs label host (transcode webCodec (.decoding e) host).result with ⟨events, logs⟩
  rw [remoteToUtf8]
  rw [source]
  simp [opened_decoding web resolves, web.codec, logs]

/-- What a conversion has given is a text just if the runs of bytes that it has copied are. -/
theorem splits_remoteToUtf8 {s : Session ω WebSession} (source : s.remoteSource? = some label)
    {host : Bytes} {converted : Transcoded} (converts : (s.remoteToUtf8 k host).value = .ok converted) :
    ∃ segments : List Segment, e.decoder.Splits e.decoder.start host segments ∧
      converted.bytes = segments.flatMap Segment.output ∧
      (s.remoteToUtf8 k host).trace.copiedBytes = segments.flatMap Segment.verbatim ∧
      (Utf8.IsText converted.bytes ↔ ∀ run ∈ Segment.copiedRuns [] segments, Utf8.IsText run) := by
  have splits := e.decoder_sound.splits (e.decoder_sound.start host)
  rcases WebSession.transcode_decoding e host with ⟨result, copied⟩
  rw [Decoder.made, Marked.bytes_flatMap] at result
  rw [Decoder.made, Marked.copied_flatMap] at copied
  simp only [Segment.bytes_marked] at result
  simp only [Segment.copied_marked] at copied
  have output : converted.bytes =
      (e.decoder.segments e.decoder.start host).flatMap Segment.output := by
    rw [remoteToUtf8_of_result web resolves source result] at converts
    split_ifs at converts
    cases converts
    exact Transcoded.bytes_mk _
  refine ⟨_, splits, output, ?_, ?_⟩
  · rw [copiedBytes_remoteToUtf8 web resolves source, copied]
  · rw [output, ← Segment.isText_output_iff, List.nil_append]

end Decoding

omit web

/-- Whatever answers, the two ways of a host come to the same but for a conversion in front of one
of them, and only texts are passed on. In a single-byte charset that gives every byte a meaning, a
host beyond ASCII is passed on as what its bytes stand for one by one; in any charset, a host that
has been converted is refused just if the bytes that were copied are no text between some of the
characters. -/
theorem hosts_are_encoded_alike :
    (∀ {ω σ : Type} (k : Collaborators ω σ) (s : Session ω σ) (host : Bytes), s.EncodesAlike k host) ∧
    ∀ {ω : Type} {k : Collaborators ω WebSession} (label : String) (e : Encoding)
      (s : Session ω WebSession) (host : Bytes), k.OpensWeb → Encoding.ofLabel? label = some e →
      s.remoteSource? = some label →
      (∀ t, e = .singleByte t → (∀ b, (t.char? b).isSome) → (∃ b ∈ host, 0x80 ≤ b.toNat) →
        ∃ text : String, text.toList.map some = host.map t.char? ∧
          (s.idnEncode k host false).trace.idnCalls = [.toAscii text] ∧
          (s.idnEncode k host false).value =
            (k.toAscii (s.remoteToUtf8 k host).session.world text).1.mapError (.idn .encode) ∧
          ∀ reason, (s.idnEncode k host false).value ≠ .error (.invalidUtf8 reason)) ∧
      ∀ converted, (s.remoteToUtf8 k host).value = .ok converted →
        ∃ segments : List Segment, e.decoder.Splits e.decoder.start host segments ∧
          converted.bytes = segments.flatMap Segment.output ∧
          (s.remoteToUtf8 k host).trace.copiedBytes = segments.flatMap Segment.verbatim ∧
          ((∃ reason, (s.idnEncode k host false).value = .error (.invalidUtf8 reason)) ↔
            ∃ run ∈ Segment.copiedRuns [] segments, ¬ Utf8.IsText run) := by
  refine ⟨fun k s host => s.encodesAlike k host, ?_⟩
  intro ω k label e s host web resolves source
  have alike := s.encodesAlike k host
  constructor
  · rintro t rfl assigned high
    rcases remoteToUtf8_of_assigned web resolves assigned source high with ⟨converted, converts, bytes⟩
    have passes := alike.passes converted converts
    refine ⟨_, ?_, (passes.asks_iff _).mpr bytes.symm, passes.answers _ bytes.symm, ?_⟩
    · rw [String.toList_ofList, t.map_some_filterMap fun b _ => assigned b]
    · intro reason refused
      exact passes.isRefused_iff.mp ⟨reason, refused⟩ ⟨_, bytes.symm⟩
  · intro converted converts
    rcases splits_remoteToUtf8 web resolves source converts with
      ⟨segments, splits, output, copied, isText⟩
    refine ⟨segments, splits, output, copied, ?_⟩
    rw [(alike.passes converted converts).isRefused_iff, isText]
    simp

/-- German text; Greek text with two bytes that stand for nothing, which make up a Cyrillic letter
where they stand together and are refused where the sign for the euro stands between them. -/
theorem hosts_are_encoded_alike_accident :
    Collaborators.standard.OpensWeb ∧
    ((Session.new (.ofSettings [.encodingRemote "latin1"]) {}).idnEncode Collaborators.standard
      [0x62, 0xFC, 0x80] false).trace.idnCalls = [.toAscii "bü€"] ∧
    (∃ segments : List Segment,
      SingleByte.windows1253.decoder.Splits () [0x80, 0xD2, 0xAA] segments ∧
      segments.flatMap Segment.output = [0xE2, 0x82, 0xAC, 0xD2, 0xAA] ∧
      ∀ run ∈ Segment.copiedRuns [] segments, Utf8.IsText run) ∧
    ((Session.new (.ofSettings [.encodingRemote "windows-1253"]) {}).idnEncode Collaborators.standard
      [0x80, 0xD2, 0xAA] false).trace.idnCalls = [.toAscii "€Ҫ"] ∧
    ((Session.new (.ofSettings [.encodingRemote "windows-1253"]) {}).idnEncode Collaborators.standard
      [0x62, 0xD2, 0x80, 0xAA] false).value =
        .error (.invalidUtf8 "invalid utf-8 sequence of 1 bytes from index 1") := by
  have web := Collaborators.opensWeb_standard
  have latin : Encoding.ofLabel? "latin1" = some (.singleByte .windows1252) := by rfl
  have greek : Encoding.ofLabel? "windows-1253" = some (.singleByte .windows1253) := by rfl
  rcases hosts_are_encoded_alike with ⟨alike, remote⟩
  -- what the Greek decoder makes of a host, byte by byte
  have converts (host output : Bytes) (decoded : host.flatMap SingleByte.windows1253.decoded = output)
      (changed : output ≠ host) :
      ((Session.new (.ofSettings [.encodingRemote "windows-1253"]) {}).remoteToUtf8
        Collaborators.standard host).value = .ok ⟨output ++ [0]⟩ := by
    rw [remoteToUtf8_of_result web greek rfl (WebSession.transcode_singleByte _ host).1, decoded,
      if_neg changed]
  have accident := converts [0x80, 0xD2, 0xAA] [0xE2, 0x82, 0xAC, 0xD2, 0xAA] (by decide) (by decide)
  have apart := converts [0x62, 0xD2, 0x80, 0xAA] [0x62, 0xD2, 0xE2, 0x82, 0xAC, 0xAA] (by decide)
    (by decide)
  have spelt : utf8 "€Ҫ" = [0xE2, 0x82, 0xAC, 0xD2, 0xAA] := by decide
  have passes := (alike _ _ _).passes _ accident
  refine ⟨web, ?_, ?_, ?_, ?_⟩
  · rcases (remote "latin1" _ (Session.new (.ofSettings [.encodingRemote "latin1"]) {})
      [0x62, 0xFC, 0x80] web latin rfl).1 _ rfl SingleByte.isSome_char?_windows1252
        ⟨0xFC, by simp, by decide⟩ with ⟨text, decoded, calls, -⟩
    have same : text.toList.map some = "bü€".toList.map some := decoded.trans (by decide)
    rw [calls, String.toList_injective (List.map_injective_iff.mpr (Option.some_injective _) same)]
  · rcases (remote "windows-1253" _ _ _ web greek rfl).2 _ accident with
      ⟨segments, splits, output, -, refused⟩
    refine ⟨segments, splits, output.symm, ?_⟩
    by_contra faulty
    exact passes.isRefused_iff.mp (refused.mpr (by simpa using faulty)) ⟨_, spelt⟩
  · exact (passes.asks_iff _).mpr spelt
  · refine (((alike _ _ _).passes _ apart).refuses_iff _).mpr ⟨⟨1, some 1⟩, ?_, by rfl⟩
    rw [← Utf8.validate_eq_error_iff]
    exact Utf8.validate_encode_append ['b']
      (show Utf8.front 0xD2 [0xE2, 0x82, 0xAC, 0xAA] = .illFormed 1 false by rfl)

end Session

end LinkCharset
