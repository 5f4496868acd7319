import LinkCharset.Proofs.Session.Calls
import LinkCharset.Proofs.Session.History
import LinkCharset.Session.Scripted

/-! # The lifetimes of codecs

Which codecs are open is told by the calls alone. Between two operations it is the one that the
session keeps, if it keeps one, and none when the session has ended. -/
namespace LinkCharset

/-- The codecs open, by the labels they have been opened with, the last one first. -/
abbrev OpenCodecs := List (String × String)

namespace Call

/-- What is open after a call. The codec opened last is the one that converts, is reset and is
closed; there has to be one. -/
def leaves? (codecs : OpenCodecs) : Call → Option OpenCodecs
  | .openSession source target true => some ((source, target) :: codecs)
  | .openSession _ _ false => some codecs
  | .convert .. | .reset => if codecs.isEmpty then none else some codecs
  | .close => if codecs.isEmpty then none else some codecs.tail
  | .detect | .toAscii _ | .toUnicode _ => some codecs

def leave? (codecs : OpenCodecs) (calls : List Call) : Option OpenCodecs := calls.foldlM leaves? codecs

def opensCodec : Call → Bool
  | .openSession _ _ isOpened => isOpened
  | _ => false

def closesCodec : Call → Bool
  | .close => true
  | _ => false

@[simp] theorem leave?_nil (codecs : OpenCodecs) : leave? codecs [] = some codecs := rfl

theorem leave?_cons (codecs : OpenCodecs) (call : Call) (calls : List Call) :
    leave? codecs (call :: calls) = (leaves? codecs call).bind (leave? · calls) := rfl

theorem leave?_append (codecs : OpenCodecs) (calls later : List Call) :
    leave? codecs (calls ++ later) = (leave? codecs calls).bind (leave? · later) :=
  List.foldlM_append

theorem leave?_of_stays {codecs : OpenCodecs} {calls : List Call}
    (stays : ∀ call ∈ calls, leaves? codecs call = some codecs) : leave? codecs calls = some codecs := by
  induction calls with
  | nil => rfl
  | cons call calls ih =>
    rw [leave?_cons, stays call List.mem_cons_self, Option.bind_some]
    exact ih fun later made => stays later (List.mem_cons_of_mem _ made)

theorem IsUse.leaves? {call : Call} (use : call.IsUse) (codec : String × String)
    (codecs : OpenCodecs) : call.leaves? (codec :: codecs) = some (codec :: codecs) := by
  cases call with
  | convert input room report => rfl
  | reset => rfl
  | openSession source target isOpened => exact use.elim
  | close => exact use.elim
  | detect => exact use.elim
  | toAscii host => exact use.elim
  | toUnicode host => exact use.elim

theorem countP_of_leave? {codecs left : OpenCodecs} {calls : List Call}
    (leaves : leave? codecs calls = some left) :
    calls.countP opensCodec + codecs.length = calls.countP closesCodec + left.length := by
  induction calls generalizing codecs with
  | nil =>
    cases leaves
    rfl
  | cons call calls ih =>
    rw [leave?_cons, Option.bind_eq_some_iff] at leaves
    rcases leaves with ⟨between, first, later⟩
    have rest := ih later
    have turn : (if call.opensCodec then 1 else 0) + codecs.length =
        (if call.closesCodec then 1 else 0) + between.length := by
      cases call with
      | openSession source target isOpened =>
        cases isOpened <;> cases first <;> simp [opensCodec, closesCodec, Nat.add_comm]
      | close =>
        cases codecs with
        | nil => cases first
        | cons codec codecs =>
          cases first
          simp [opensCodec, closesCodec, Nat.add_comm]
      | convert input room report =>
        cases codecs <;> cases first
        rfl
      | reset =>
        cases codecs <;> cases first
        rfl
      | detect => cases first; rfl
      | toAscii host => cases first; rfl
      | toUnicode host => cases first; rfl
    rw [List.countP_cons, List.countP_cons]
    omega

end Call

namespace Session

variable {ω σ : Type} (k : Collaborators ω σ) (s : Session ω σ)

def openCodecs : OpenCodecs := (s.cached.map (·.locale)).toList.map fun locale => (locale, utf8Label)

theorem openCodecs_congr {s t : Session ω σ}
    (same : t.cached.map (·.locale) = s.cached.map (·.locale)) : t.openCodecs = s.openCodecs := by
  rw [openCodecs, openCodecs, same]

theorem openCodecs_of_cached {cached : CachedCodec σ} (kept : s.cached = some cached) :
    s.openCodecs = [(cached.locale, utf8Label)] := by
  rw [openCodecs, kept]
  rfl

theorem openCodecs_of_none (kept : s.cached = none) : s.openCodecs = [] := by
  rw [openCodecs, kept]
  rfl

/-- A codec that is opened for one conversion leaves those that are open as they are. -/
theorem OpensAndCloses.leave? {source? : Option String} {calls : List Call}
    (visit : OpensAndCloses source? calls) (codecs : OpenCodecs) :
    Call.leave? codecs calls = some codecs := by
  cases source? with
  | none => rw [show calls = [] from visit, Call.leave?_nil]
  | some source =>
    rcases visit with rfl | ⟨uses, areUses, rfl⟩
    · rfl
    · have stays := Call.leave?_of_stays fun call made => (areUses call made).leaves?
        (source, utf8Label) codecs
      rw [List.cons_append, Call.leave?_cons, Call.leaves?, Option.bind_some, Call.leave?_append, stays]
      rfl

theorem leave?_resolveLocale :
    Call.leave? s.openCodecs (s.resolveLocale k).trace.calls =
      some (s.resolveLocale k).session.openCodecs := by
  rw [openCodecs_congr (congrArg _ (s.cached_resolveLocale k))]
  apply Call.leave?_of_stays
  intro call made
  rw [s.calls_resolveLocale k call made]
  rfl

theorem leave?_closing : Call.leave? s.openCodecs s.closing.calls = some [] := by
  rw [openCodecs, closing]
  cases s.cached <;> rfl

theorem Reopens.leave? {s after : Session ω σ} {locale : String} {calls : List Call}
    (reopens : s.Reopens after locale calls) :
    Call.leave? s.openCodecs calls = some after.openCodecs := by
  rcases reopens with ⟨left, uses, areUses, cached, rfl⟩ | ⟨cached, rfl⟩
  · rw [openCodecs_of_cached _ cached, Call.leave?_append, leave?_closing, Option.bind_some,
      Call.leave?_cons]
    exact Call.leave?_of_stays fun call made => (areUses call made).leaves? _ _
  · rw [openCodecs_of_none _ cached, Call.leave?_append, leave?_closing]
    rfl

theorem leave?_localeToUtf8 (input : Bytes) :
    Call.leave? s.openCodecs (s.localeToUtf8 k input).trace.calls =
      some (s.localeToUtf8 k input).session.openCodecs := by
  by_cases needy : ∃ locale, s.Needs k locale
  · rcases needy with ⟨locale, needs⟩
    rcases s.localeToUtf8_of_needs k needs input with ⟨detecting, later, detect, reopens, calls⟩
    have detects : Call.leave? s.openCodecs detecting = some s.openCodecs :=
      Call.leave?_of_stays fun call made => by rw [detect call made]; rfl
    rw [calls, Call.leave?_append, detects]
    exact reopens.leave?
  · rcases s.localeToUtf8_of_not_needs k (not_exists.mp needy) input with ⟨same, idle⟩
    rw [openCodecs_congr same]
    apply Call.leave?_of_stays
    intro call made
    rcases idle call made with rfl | ⟨use, keeps⟩
    · rfl
    · rcases Option.ne_none_iff_exists'.mp keeps with ⟨cached, kept⟩
      rw [openCodecs_of_cached _ kept]
      exact use.leaves? _ _

/-- Every operation leaves open what the session keeps after it, and nothing else. -/
theorem leave?_perform (op : Operation) :
    Call.leave? s.openCodecs (s.perform k op).trace.calls =
      some (s.perform k op).session.openCodecs := by
  cases op with
  | locale => exact s.leave?_resolveLocale k
  | setLocale locale => rfl
  | currentAsLocale =>
    change Call.leave? s.openCodecs (s.setCurrentAsLocale k).trace.calls = _
    rw [calls_setCurrentAsLocale]
    exact s.leave?_resolveLocale k
  | resetUtf8Encode => rfl
  | changeState change => rfl
  | remoteToUtf8 input =>
    have same : (s.remoteToUtf8 k input).session.openCodecs = s.openCodecs :=
      openCodecs_congr (congrArg _ (s.cached_remoteToUtf8 k input))
    exact ((s.opensAndCloses_remoteToUtf8 k input).leave? _).trans (congrArg some same.symm)
  | localeToUtf8 input => exact s.leave?_localeToUtf8 k input
  | idnEncode host isUtf8 =>
    have same : (s.idnEncode k host isUtf8).session.openCodecs = s.openCodecs :=
      openCodecs_congr (congrArg _ (s.cached_idnEncode k host isUtf8))
    rcases s.opensAndCloses_idnEncode k host isUtf8 with ⟨visit, asking, opens, asks, calls⟩
    change Call.leave? s.openCodecs (s.idnEncode k host isUtf8).trace.calls =
      some (s.idnEncode k host isUtf8).session.openCodecs
    rw [same, calls, Call.leave?_append, opens.leave?, Option.bind_some]
    apply Call.leave?_of_stays
    intro call made
    rcases asks call made with ⟨text, rfl⟩
    rfl
  | idnDecode host =>
    change Call.leave? s.openCodecs (.toUnicode host :: (idnResult .decode host _).2.calls) = _
    rw [calls_idnResult]
    rfl

theorem leave?_performAll (history : List Operation) :
    Call.leave? s.openCodecs (s.performAll k history).1.calls =
      some (s.performAll k history).2.openCodecs := by
  induction history generalizing s with
  | nil => rfl
  | cons op history ih =>
    change Call.leave? s.openCodecs ((s.perform k op).trace ++ _).calls = _
    rw [Trace.calls_append, Call.leave?_append, s.leave?_perform k op, Option.bind_some]
    exact ih _

/-- The calls of a session that has ended open as many codecs as they close, and each close is that
of the codec opened last among those still open. -/
theorem leave?_closed (history : List Operation) :
    Call.leave? s.openCodecs
      ((s.performAll k history).1 ++ (s.performAll k history).2.closing).calls = some [] := by
  rw [Trace.calls_append, Call.leave?_append, leave?_performAll, Option.bind_some, leave?_closing]

/-- How a conversion from the local charset comes by its codec. -/
structure OpensAsNeeded (input : Bytes) : Prop where
  /-- A codec to UTF-8 is opened just where the local charset is known, is not UTF-8 itself, and has
  none kept for it. -/
  opens_iff : ∀ source target : String,
    (∃ isOpened, .openSession source target isOpened ∈ (s.localeToUtf8 k input).trace.calls) ↔
      s.Needs k source ∧ target = utf8Label
  /-- The one for another charset is closed before, and nothing else is opened or closed. -/
  reopens : ∀ locale : String, s.Needs k locale → ∃ detecting calls : List Call,
    (∀ call ∈ detecting, call = .detect) ∧
      s.Reopens (s.localeToUtf8 k input).session locale calls ∧
        (s.localeToUtf8 k input).trace.calls = detecting ++ calls
  /-- A codec that is not replaced stays open. -/
  stays : (∀ locale : String, ¬ s.Needs k locale) →
    .close ∉ (s.localeToUtf8 k input).trace.calls
  /-- Where a codec cannot be opened none is kept, and the next conversion tries again. -/
  triesAgain : ∀ source target : String,
    .openSession source target false ∈ (s.localeToUtf8 k input).trace.calls →
      (s.localeToUtf8 k input).session.cached = none ∧
        ∀ again : Bytes, ∃ isOpened, .openSession source utf8Label isOpened ∈
          ((s.localeToUtf8 k input).session.localeToUtf8 k again).trace.calls

theorem opensAsNeeded (input : Bytes) : s.OpensAsNeeded k input where
  opens_iff := s.opens_localeToUtf8_iff k input
  reopens _ needs := s.localeToUtf8_of_needs k needs input
  stays needless := by
    intro made
    rcases (s.localeToUtf8_of_not_needs k needless input).2 _ made with detects | ⟨use, -⟩
    · cases detects
    · exact use.elim
  triesAgain source target refused := by
    rcases s.needs_of_refused k refused with ⟨cached, needs⟩
    exact ⟨cached, fun again => (opens_localeToUtf8_iff k _ again source utf8Label).mpr ⟨needs, rfl⟩⟩

/-- Codecs are opened and closed exactly, whichever of them can be opened and whatever comes of
their conversions. In the calls of a session that has ended, every codec that has been opened is
closed once, and is used in between only. After each operation at most one is open: it is the one
that is kept, and it has been opened from the charset it is kept for. A conversion of remote text
closes the codec it opens, and one from the local charset opens a codec only as it is needed. -/
theorem codecs_open_and_close (options : Options) (world : ω) (history : List Operation) :
    let lived := (Session.new options world : Session ω σ).performAll k history
    let calls := (lived.1 ++ lived.2.closing).calls
    Call.leave? [] calls = some [] ∧
      calls.countP Call.opensCodec = calls.countP Call.closesCodec ∧
      Call.leave? [] lived.1.calls = some lived.2.openCodecs ∧
      KeepsOpened k lived.2.cached ∧
      (∀ input, OpensAndCloses lived.2.remoteSource? (lived.2.remoteToUtf8 k input).trace.calls) ∧
      (∀ host isUtf8, ∃ visit asking : List Call,
        OpensAndCloses (if isUtf8 then none else lived.2.remoteSource?) visit ∧
          (∀ call ∈ asking, ∃ text, call = .toAscii text) ∧
            (lived.2.idnEncode k host isUtf8).trace.calls = visit ++ asking) ∧
      ∀ input, lived.2.OpensAsNeeded k input := by
  intro lived calls
  have closed : Call.leave? [] calls = some [] := leave?_closed k (Session.new options world) history
  refine ⟨closed, by simpa using Call.countP_of_leave? closed, ?_, ?_, ?_, ?_, ?_⟩
  · exact leave?_performAll k (Session.new options world) history
  · exact keepsOpened_performAll k options world history
  · exact lived.2.opensAndCloses_remoteToUtf8 k
  · exact lived.2.opensAndCloses_idnEncode k
  · exact lived.2.opensAsNeeded k

/-- A codec that can be had only at the second time, and one for remote text while it is open. -/
example :
    let codec : ScriptedOpening := .codec (.plain (.decoding .utf8)) []
    let stage : Stage :=
      ⟨{}, some [.refuse ⟨"koi8-r", utf8Label⟩, codec, codec, codec], none, none⟩
    let options := Options.ofSettings [.locale "koi8-r", .encodingRemote "big5"]
    let lived := (Session.new options stage : Session Stage (Scripted WebSession)).performAll .scripted
      [.localeToUtf8 [], .localeToUtf8 [], .remoteToUtf8 [], .setLocale (some "latin1"),
        .localeToUtf8 []]
    (lived.1 ++ lived.2.closing).calls =
      [.openSession "koi8-r" utf8Label false, .openSession "koi8-r" utf8Label true, .reset,
        .openSession "big5" utf8Label true, .close, .close,
        .openSession "latin1" utf8Label true, .reset, .close] := by
  rfl

end Session

end LinkCharset
