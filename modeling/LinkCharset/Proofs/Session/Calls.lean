import LinkCharset.Proofs.Session.Cache
import LinkCharset.Proofs.Transcode.AppendOnly

/-! # What operations ask of codecs

Remote text is converted by a codec of its own, which is opened for it and closed behind it. Local
text is converted by the codec kept, which is opened only where none is kept for its charset. -/
namespace LinkCharset

/-- A call on a codec that is open, and stays so. -/
def Call.IsUse : Call → Prop
  | .convert .. | .reset => True
  | _ => False

namespace Transcode

variable {σ : Type} {c : Codec σ} {total limit : ℕ}

theorem isUse_turn (c : Codec σ) (total : ℕ) (s : Cursor σ) :
    ∀ call ∈ (turn c total s).trace.calls, call.IsUse := by
  rw [calls_turn]
  intro call made
  rw [List.mem_singleton.mp made]
  exact trivial

theorem isUse_runFrom {s : Cursor σ} {run : Run σ} (stops : runFrom c total limit s = some run) :
    ∀ call ∈ run.trace.calls, call.IsUse := by
  refine runFrom_induction (motive := fun _ run => ∀ call ∈ run.trace.calls, call.IsUse) ?_ ?_ stops
  · intro s trace result codec ends
    have here := isUse_turn c total s
    rwa [ends] at here
  · intro s trace next run goesOn ih call made
    have here := isUse_turn c total s
    rw [goesOn] at here
    rw [Trace.calls_append, List.mem_append] at made
    rcases made with first | later
    · exact here call first
    · exact ih call later

end Transcode

theorem isUse_transcode {σ : Type} (c : Codec σ) (codec : σ) (input : Bytes) :
    ∀ call ∈ (transcode c codec input).trace.calls, call.IsUse := by
  rcases transcode_cases c codec input with ⟨result, none⟩ | ⟨limit, stops⟩
  · simp [none]
  · exact Transcode.isUse_runFrom stops

namespace Session

variable {ω σ : Type} (k : Collaborators ω σ) (s : Session ω σ)

/-- The calls of a conversion from a charset, if there is one, by a codec that is opened for it:
where the codec can be had it is closed behind the conversion. -/
def OpensAndCloses (source? : Option String) (calls : List Call) : Prop :=
  match source? with
  | none => calls = []
  | some source =>
    calls = [.openSession source utf8Label false] ∨
      ∃ uses : List Call, (∀ call ∈ uses, call.IsUse) ∧
        calls = .openSession source utf8Label true :: uses ++ [.close]

theorem judgeRemote_logs (source : String) (input : Bytes) (result : Except TranscodeError Transcoded) :
    ∃ events, (judgeRemote source input result).2 = Trace.ofEvents events := by
  cases result with
  | error e => exact ⟨[], rfl⟩
  | ok output =>
    rw [judgeRemote]
    split
    · exact ⟨[], rfl⟩
    · exact ⟨[.convertedRemote source], rfl⟩

theorem opensAndCloses_remoteToUtf8 (input : Bytes) :
    OpensAndCloses s.remoteSource? (s.remoteToUtf8 k input).trace.calls := by
  rw [remoteToUtf8]
  cases s.remoteSource? with
  | none => exact rfl
  | some source =>
    dsimp only
    cases (k.openSession s.world source utf8Label).1 with
    | error cause =>
      left
      simp [Except.isOk, Except.toBool]
    | ok codec =>
      right
      refine ⟨_, isUse_transcode k.codec codec input, ?_⟩
      rcases judgeRemote_logs source input (transcode k.codec codec input).result with ⟨events, logs⟩
      simp [Except.isOk, Except.toBool, logs]

theorem calls_idnResult (operation : IdnOperation) (host : String) (answer : Except IdnError String) :
    (idnResult operation host answer).2.calls = [] := by
  cases answer <;> rfl

theorem calls_encodeHost (host : Bytes) :
    ∀ call ∈ (s.encodeHost k host).trace.calls, ∃ text, call = .toAscii text := by
  rw [encodeHost]
  cases Utf8.validate host with
  | error fault => simp
  | ok chars => simp [calls_idnResult]

/-- The ASCII form of a host takes at most the codec of a remote text, which is closed before the
form is asked for. -/
theorem opensAndCloses_idnEncode (host : Bytes) (isUtf8 : Bool) :
    ∃ visit asking : List Call,
      OpensAndCloses (if isUtf8 then none else s.remoteSource?) visit ∧
        (∀ call ∈ asking, ∃ text, call = .toAscii text) ∧
          (s.idnEncode k host isUtf8).trace.calls = visit ++ asking := by
  rw [idnEncode]
  cases isUtf8 with
  | true => exact ⟨[], _, rfl, s.calls_encodeHost k host, rfl⟩
  | false =>
    have visit := s.opensAndCloses_remoteToUtf8 k host
    rw [if_neg (by simp), if_neg (by simp), Outcome.andThen]
    cases (s.remoteToUtf8 k host).value with
    | error e => exact ⟨_, [], visit, by simp, by simp⟩
    | ok converted =>
      exact ⟨_, _, visit, calls_encodeHost k _ converted.bytes, Trace.calls_append _ _⟩

theorem calls_resolveLocale : ∀ call ∈ (s.resolveLocale k).trace.calls, call = .detect := by
  rw [resolveLocale]
  cases s.locale with
  | some locale => simp
  | none => simp

@[simp] theorem calls_setCurrentAsLocale :
    (s.setCurrentAsLocale k).trace.calls = (s.resolveLocale k).trace.calls := by
  rw [setCurrentAsLocale, Outcome.andThen]
  simp

theorem isUse_convertLocale (locale : String) (codec : σ) (input : Bytes) :
    ∀ call ∈ (s.convertLocale k locale codec input).trace.calls, call.IsUse := by
  rw [convertLocale]
  intro call made
  rcases List.mem_cons.mp made with rfl | made
  · exact trivial
  · exact isUse_transcode _ _ _ call made

theorem localeThroughCodec_of_kept {locale : String} {codec : σ}
    (kept : s.cached = some ⟨locale, codec⟩) (input : Bytes) :
    ∃ left : σ, (s.localeThroughCodec k locale input).session.cached = some ⟨locale, left⟩ ∧
      ∀ call ∈ (s.localeThroughCodec k locale input).trace.calls, call.IsUse := by
  unfold localeThroughCodec Outcome.andThen
  rw [localeCodec_of_kept kept]
  exact ⟨_, rfl, s.isUse_convertLocale k locale codec input⟩

/-- What is kept is closed and a codec is opened for a charset, which is used and kept. If it cannot
be opened, nothing is kept. -/
def Reopens (after : Session ω σ) (locale : String) (calls : List Call) : Prop :=
  (∃ (left : σ) (uses : List Call), (∀ call ∈ uses, call.IsUse) ∧
    after.cached = some ⟨locale, left⟩ ∧
      calls = s.closing.calls ++ .openSession locale utf8Label true :: uses) ∨
  (after.cached = none ∧ calls = s.closing.calls ++ [.openSession locale utf8Label false])

section Reopens

variable {s} {after : Session ω σ} {locale source target : String} {calls : List Call}
  (reopens : s.Reopens after locale calls)
include reopens

theorem Reopens.opens_iff :
    (∃ isOpened, .openSession source target isOpened ∈ calls) ↔
      source = locale ∧ target = utf8Label := by
  have closing : ∀ isOpened, .openSession source target isOpened ∉ s.closing.calls := by
    rw [Session.closing]
    split <;> simp
  rcases reopens with ⟨left, uses, areUses, -, rfl⟩ | ⟨-, rfl⟩
  · have later : ∀ isOpened, .openSession source target isOpened ∉ uses :=
      fun isOpened made => areUses _ made
    simp [closing, later]
  · simp [closing]

theorem Reopens.cached_of_refused (refused : .openSession source target false ∈ calls) :
    after.cached = none := by
  rcases reopens with ⟨left, uses, areUses, -, rfl⟩ | ⟨cached, -⟩
  · rw [List.mem_append, List.mem_cons] at refused
    rcases refused with closing | opening | use
    · rw [Session.closing] at closing
      split at closing <;> simp at closing
    · cases opening
    · exact (areUses _ use).elim
  · exact cached

end Reopens

theorem localeThroughCodec_of_lacks {locale : String} (lacks : s.Lacks locale) (input : Bytes) :
    s.Reopens (s.localeThroughCodec k locale input).session locale
      (s.localeThroughCodec k locale input).trace.calls := by
  unfold localeThroughCodec Outcome.andThen
  cases opens : (k.openSession s.world locale utf8Label).1 with
  | ok codec =>
    rcases localeCodec_of_ok lacks opens with ⟨value, -, calls⟩
    rw [value]
    exact .inl ⟨_, _, isUse_convertLocale k (s.localeCodec k locale).session locale codec input, rfl,
      by simp [calls]⟩
  | error cause =>
    rcases localeCodec_of_error lacks opens with ⟨value, cached, calls⟩
    rw [value]
    exact .inr ⟨cached, by simp [calls]⟩

/-- The local charset is known, is not UTF-8, and no codec is kept for it: the next conversion from
it has to open one. -/
def Needs (locale : String) : Prop :=
  (s.resolveLocale k).value = some locale ∧ isUtf8Label locale = false ∧ s.Lacks locale

theorem localeToUtf8_of_needs {locale : String} (needs : s.Needs k locale) (input : Bytes) :
    ∃ detecting calls : List Call, (∀ call ∈ detecting, call = .detect) ∧
      s.Reopens (s.localeToUtf8 k input).session locale calls ∧
        (s.localeToUtf8 k input).trace.calls = detecting ++ calls := by
  rcases needs with ⟨resolved, foreign, lacks⟩
  have same := s.cached_resolveLocale k
  have closing : (s.resolveLocale k).session.closing = s.closing := by rw [closing, closing, same]
  have reopens := localeThroughCodec_of_lacks k (s.resolveLocale k).session
    (fun c kept => lacks c (same ▸ kept)) input
  rw [Reopens, closing] at reopens
  rw [localeToUtf8, Outcome.andThen, resolved]
  dsimp only
  rw [foreign, if_neg (by simp)]
  exact ⟨_, _, s.calls_resolveLocale k, reopens, Trace.calls_append _ _⟩

/-- Any other conversion from a local charset opens and closes nothing. -/
theorem localeToUtf8_of_not_needs (needless : ∀ locale, ¬ s.Needs k locale) (input : Bytes) :
    (s.localeToUtf8 k input).session.cached.map (·.locale) = s.cached.map (·.locale) ∧
      ∀ call ∈ (s.localeToUtf8 k input).trace.calls, call = .detect ∨ call.IsUse ∧ s.cached ≠ none := by
  have same := s.cached_resolveLocale k
  have detecting := s.calls_resolveLocale k
  have idle {trace : Trace} (nothing : trace.calls = []) : ∀ call ∈
      ((s.resolveLocale k).trace ++ trace).calls, call = .detect ∨ call.IsUse ∧ s.cached ≠ none := by
    intro call made
    rw [Trace.calls_append, nothing, List.append_nil] at made
    exact .inl (detecting call made)
  rw [localeToUtf8, Outcome.andThen]
  cases resolved : (s.resolveLocale k).value with
  | none => exact ⟨by rw [← same], idle rfl⟩
  | some locale =>
    dsimp only
    split
    · exact ⟨by rw [← same], idle rfl⟩
    · rename_i foreign
      rcases s.kept_or_lacks locale with ⟨codec, kept⟩ | lacks
      · rcases localeThroughCodec_of_kept k (s.resolveLocale k).session (same.trans kept) input with
          ⟨left, cached, uses⟩
        refine ⟨by rw [cached, kept]; rfl, ?_⟩
        intro call made
        rw [Trace.calls_append, List.mem_append] at made
        rcases made with here | after
        · exact .inl (detecting call here)
        · exact .inr ⟨uses call after, by simp [kept]⟩
      · exact absurd ⟨resolved, by simpa using foreign, lacks⟩ (needless locale)

theorem opens_localeToUtf8_iff (input : Bytes) (source target : String) :
    (∃ isOpened, .openSession source target isOpened ∈ (s.localeToUtf8 k input).trace.calls) ↔
      s.Needs k source ∧ target = utf8Label := by
  by_cases needy : ∃ locale, s.Needs k locale
  · rcases needy with ⟨locale, needs⟩
    rcases s.localeToUtf8_of_needs k needs input with ⟨detecting, later, detect, reopens, calls⟩
    have only : s.Needs k source ↔ source = locale := by
      constructor
      · intro other
        exact Option.some.inj (other.1.symm.trans needs.1)
      · rintro rfl
        exact needs
    have before (isOpened : Bool) : .openSession source target isOpened ∉ detecting := by
      intro made
      cases detect _ made
    simp only [calls, List.mem_append, before, false_or, reopens.opens_iff, only]
  · rcases s.localeToUtf8_of_not_needs k (not_exists.mp needy) input with ⟨-, idle⟩
    constructor
    · rintro ⟨isOpened, made⟩
      rcases idle _ made with detects | ⟨use, -⟩
      · cases detects
      · exact use.elim
    · rintro ⟨needs, -⟩
      exact absurd ⟨source, needs⟩ needy

theorem locale_resolveLocale : (s.resolveLocale k).session.locale = (s.resolveLocale k).value := by
  rw [resolveLocale]
  cases known : s.locale with
  | some locale => exact known
  | none => rfl

theorem locale_localeToUtf8 (input : Bytes) :
    (s.localeToUtf8 k input).session.locale = (s.resolveLocale k).session.locale := by
  rw [localeToUtf8, Outcome.andThen]
  cases (s.resolveLocale k).value with
  | none => rfl
  | some label =>
    dsimp only
    split
    · rfl
    · rcases (s.resolveLocale k).session.session_localeThroughCodec k label input with
        ⟨cached, world, left⟩
      rw [left]

/-- Once a charset has been converted from, it is not looked for again. -/
theorem value_resolveLocale_localeToUtf8 {locale : String}
    (resolved : (s.resolveLocale k).value = some locale) (input : Bytes) :
    ((s.localeToUtf8 k input).session.resolveLocale k).value = some locale := by
  have known : (s.localeToUtf8 k input).session.locale = some locale := by
    rw [locale_localeToUtf8, locale_resolveLocale, resolved]
  rw [resolveLocale, known]

/-- After a codec could not be opened nothing is kept, so that the next conversion needs it again.
-/
theorem needs_of_refused {source target : String} {input : Bytes}
    (refused : .openSession source target false ∈ (s.localeToUtf8 k input).trace.calls) :
    (s.localeToUtf8 k input).session.cached = none ∧
      (s.localeToUtf8 k input).session.Needs k source := by
  rcases (s.opens_localeToUtf8_iff k input source target).mp ⟨false, refused⟩ with ⟨needs, -⟩
  rcases s.localeToUtf8_of_needs k needs input with ⟨detecting, later, detect, reopens, calls⟩
  have cached : (s.localeToUtf8 k input).session.cached = none := by
    rw [calls, List.mem_append] at refused
    rcases refused with detects | refused
    · cases detect _ detects
    · exact reopens.cached_of_refused refused
  refine ⟨cached, s.value_resolveLocale_localeToUtf8 k needs.1 input, needs.2.1, ?_⟩
  intro kept here
  rw [cached] at here
  cases here

end Session

end LinkCharset
