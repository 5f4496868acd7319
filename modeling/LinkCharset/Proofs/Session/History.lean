import LinkCharset.Proofs.Codec.Alike
import LinkCharset.Proofs.Session.Identity

/-! # Conversions forget what a session has done

A session may keep a codec from one conversion to the next, in whatever state that one has left it.
It is reset before it is used again, so that every conversion gives what it would give in a session
that has just begun. -/
namespace LinkCharset

variable {ω σ : Type}

/-- Collaborators that open a codec by the two labels alone, whatever their world has come to, and
whose codecs behave after a reset as when they were opened. -/
structure Collaborators.Restart (k : Collaborators ω σ) : Prop where
  opens : ∀ (world elsewhere : ω) (source target : String),
    (k.openSession world source target).1 = (k.openSession elsewhere source target).1
  restarts : ∀ {world : ω} {source target : String} {opened codec : σ},
    (k.openSession world source target).1 = .ok opened →
      k.codec.ReachableFrom opened codec → k.codec.Alike (k.codec.reset codec) opened

namespace Session

variable (k : Collaborators ω σ)

/-- What is kept has been opened for the charset it is kept for, and used since then at most. -/
def KeepsOpened (kept : Option (CachedCodec σ)) : Prop :=
  ∀ cached, kept = some cached → ∃ (world : ω) (opened : σ),
    (k.openSession world cached.locale utf8Label).1 = .ok opened ∧
      k.codec.ReachableFrom opened cached.codec

theorem keepsOpened_localeThroughCodec {s : Session ω σ} (keeps : KeepsOpened k s.cached)
    (locale : String) (input : Bytes) :
    KeepsOpened k (s.localeThroughCodec k locale input).session.cached := by
  have converted {codec : σ} {t : Session ω σ} (before : KeepsOpened k (some ⟨locale, codec⟩)) :
      KeepsOpened k (t.convertLocale k locale codec input).session.cached := by
    rcases before _ rfl with ⟨world, opened, opens, reachable⟩
    intro cached kept
    cases kept
    exact ⟨world, opened, opens, reachable_transcode reachable.reset input⟩
  unfold localeThroughCodec Outcome.andThen
  rcases s.kept_or_lacks locale with ⟨codec, kept⟩ | lacks
  · rw [localeCodec_of_kept kept]
    exact converted (kept ▸ keeps)
  · cases opens : (k.openSession s.world locale utf8Label).1 with
    | ok codec =>
      rw [(localeCodec_of_ok lacks opens).1]
      apply converted
      intro cached kept
      cases kept
      exact ⟨s.world, codec, opens, .opened⟩
    | error cause =>
      rw [(localeCodec_of_error lacks opens).1]
      intro cached kept
      cases ((localeCodec_of_error lacks opens).2.1.symm.trans kept :)

theorem keepsOpened_localeToUtf8 (s : Session ω σ) (input : Bytes) (keeps : KeepsOpened k s.cached) :
    KeepsOpened k (s.localeToUtf8 k input).session.cached := by
  have resolved := (s.cached_resolveLocale k).symm ▸ keeps
  unfold localeToUtf8 Outcome.andThen
  cases (s.resolveLocale k).value with
  | none => exact resolved
  | some locale =>
    dsimp only
    split
    · exact resolved
    · exact keepsOpened_localeThroughCodec k resolved locale input

theorem keepsOpened_performAll (options : Options) (world : ω) (history : List Operation) :
    KeepsOpened k ((Session.new options world).performAll k history).2.cached :=
  cached_performAll k _ (p := KeepsOpened k) (keepsOpened_localeToUtf8 k)
    (by intro cached kept; cases kept) history

end Session

def Converted.ofResult : Except TranscodeError Transcoded → Converted
  | .ok output => .converted output.bytes
  | .error _ => .asIs

/-- What a codec that has just been opened makes of a local text. -/
def Collaborators.convertAnew (k : Collaborators ω σ) (world : ω) (locale : String) (input : Bytes) :
    Converted :=
  match (k.openSession world locale Session.utf8Label).1 with
  | .ok opened => .ofResult (transcode k.codec opened input).result
  | .error _ => .asIs

namespace Session

/-- A codec that behaves after its reset as one just opened converts like it. -/
theorem value_convertLocale {k : Collaborators ω σ} {codec opened : σ}
    (alike : k.codec.Alike (k.codec.reset codec) opened) (s : Session ω σ) (locale : String)
    (input : Bytes) : (s.convertLocale k locale codec input).value =
      .ofResult (transcode k.codec opened input).result := by
  rw [← (transcode_alike alike input).2]
  rfl

section Restart

variable {k : Collaborators ω σ} (restart : k.Restart)
include restart

/-- Whether a codec is kept makes no difference to what is converted. -/
theorem value_localeThroughCodec {s : Session ω σ} (keeps : KeepsOpened k s.cached) (elsewhere : ω)
    (locale : String) (input : Bytes) :
    (s.localeThroughCodec k locale input).value = k.convertAnew elsewhere locale input := by
  unfold localeThroughCodec Outcome.andThen Collaborators.convertAnew
  rcases s.kept_or_lacks locale with ⟨codec, kept⟩ | lacks
  · rcases keeps _ kept with ⟨world, opened, opens, reachable⟩
    rw [localeCodec_of_kept kept, restart.opens elsewhere world, opens]
    dsimp only
    rw [value_convertLocale (restart.restarts opens reachable)]
  · rw [restart.opens elsewhere s.world]
    cases opens : (k.openSession s.world locale utf8Label).1 with
    | ok opened =>
      rw [(localeCodec_of_ok lacks opens).1]
      dsimp only
      rw [value_convertLocale (restart.restarts opens .opened)]
    | error cause => rw [(localeCodec_of_error lacks opens).1]

/-- A conversion from the local charset gives what the charset comes to, whatever has been kept. -/
theorem value_localeToUtf8 {s : Session ω σ} (keeps : KeepsOpened k s.cached) (elsewhere : ω)
    (input : Bytes) :
    (s.localeToUtf8 k input).value =
      match (s.resolveLocale k).value with
      | none => .asIs
      | some locale =>
        if isUtf8Label locale then .asIs else k.convertAnew elsewhere locale input := by
  have resolved := (s.cached_resolveLocale k).symm ▸ keeps
  unfold localeToUtf8 Outcome.andThen
  cases (s.resolveLocale k).value with
  | none => rfl
  | some locale =>
    dsimp only
    split
    · rfl
    · exact value_localeThroughCodec restart resolved elsewhere locale input

theorem value_remoteToUtf8_eq {s t : Session ω σ} (source : s.remoteSource? = t.remoteSource?)
    (input : Bytes) : (s.remoteToUtf8 k input).value = (t.remoteToUtf8 k input).value := by
  rw [remoteToUtf8, remoteToUtf8, source]
  cases t.remoteSource? with
  | none => rfl
  | some source =>
    have same := restart.opens s.world t.world source utf8Label
    dsimp only
    rw [same]
    cases (k.openSession t.world source utf8Label).1 <;> rfl

/-- Conversions forget what a session has done: local text comes out as in any session that has just
begun and finds the same local charset, and remote text as in one with the same charset forced or in
force. Nothing else in the state of the session, and nothing that its codecs have converted before,
makes a difference. -/
theorem conversions_forget_history (options : Options) (world : ω) (history : List Operation)
    {s : Session ω σ} (reached : s = ((Session.new options world).performAll k history).2)
    (fresh : Options) (elsewhere : ω) (input : Bytes) :
    (((Session.new fresh elsewhere).resolveLocale k).value = (s.resolveLocale k).value →
      (s.localeToUtf8 k input).value =
        ((Session.new fresh elsewhere).localeToUtf8 k input).value) ∧
    (fresh.encodingRemote = options.encodingRemote →
      (s.remoteToUtf8 k input).value =
        (((Session.new fresh elsewhere).changeState
          (.setCurrent s.state.current)).remoteToUtf8 k input).value) := by
  have keeps : KeepsOpened k s.cached := reached ▸ keepsOpened_performAll k options world history
  have new : KeepsOpened k (Session.new fresh elsewhere : Session ω σ).cached :=
    keepsOpened_performAll k fresh elsewhere []
  constructor
  · intro same
    rw [value_localeToUtf8 restart keeps elsewhere, value_localeToUtf8 restart new elsewhere, same]
  · intro same
    apply value_remoteToUtf8_eq restart
    have kept : s.options = options := reached ▸ options_performAll k _ history
    rw [remoteSource?, remoteSource?, kept]
    exact congrArg (Option.or · s.state.current) same.symm

end Restart

end Session

namespace WebSession

theorem reset_convert (s : WebSession) (input : Bytes) (room : ℕ) :
    (s.convert input room).2.reset = s.reset := by
  cases s <;> rfl

theorem reset_reset (s : WebSession) : s.reset.reset = s.reset := by
  cases s <;> rfl

/-- A reset undoes whatever has been converted. -/
theorem reset_of_reachable {opened session : WebSession}
    (reachable : webCodec.ReachableFrom opened session) : session.reset = opened.reset := by
  induction reachable with
  | opened => rfl
  | convert before input room ih => exact (reset_convert _ input room).trans ih
  | reset before ih => exact (reset_reset _).trans ih

theorem reset_of_open {source target : String} {event : Event} {session : WebSession}
    (opens : open? source target = .ok (event, session)) : session.reset = session := by
  rw [open?] at opens
  split at opens
  · split_ifs at opens
    · cases opens
      rfl
    · cases opens
      rfl
  · cases opens

end WebSession

/-- The codecs of the web start again as they were opened. -/
theorem Collaborators.OpensWeb.restart {k : Collaborators ω WebSession} (web : k.OpensWeb) :
    k.Restart where
  opens world elsewhere source target := by rw [web.opens, web.opens]
  restarts {world source target opened session} opens reachable := by
    rw [web.codec] at reachable ⊢
    have same : opened.reset = opened := by
      rw [web.opens, openWeb] at opens
      cases result : WebSession.open? source target with
      | ok answer =>
        rw [result] at opens
        cases opens
        exact WebSession.reset_of_open result
      | error cause =>
        rw [result] at opens
        cases opens
    change webCodec.Alike session.reset opened
    rw [WebSession.reset_of_reachable reachable, same]
    exact .refl opened

namespace Session

/-- A text that ends among kanji, and then a detour to UTF-8, before a text that would read as kanji
if the codec that is kept had not been reset. -/
theorem conversions_forget_history_kanji :
    Collaborators.standard.Restart ∧
    ∃ s : Session LocaleVariables WebSession,
      s = ((Session.new (.ofSettings [.locale "iso-2022-jp"]) {}).performAll Collaborators.standard
        [.localeToUtf8 [0x1B, 0x24, 0x42, 0x24, 0x22], .setLocale (some "utf8"),
          .localeToUtf8 [0x24, 0x22], .setLocale (some "iso-2022-jp"),
          .changeState (.setCurrent (some "latin1")), .changeState (.setUtf8Encode true)]).2 ∧
      (s.localeToUtf8 Collaborators.standard [0x24, 0x22]).value = .converted [0x24, 0x22] ∧
      (s.remoteToUtf8 Collaborators.standard [0xE9]).value =
        (((Session.new (.ofSettings [.enableIri true]) {}).changeState
          (.setCurrent (some "latin1"))).remoteToUtf8 Collaborators.standard [0xE9]).value := by
  have restart := Collaborators.opensWeb_standard.restart
  have dollar : Iso2022Jp.single? .ascii 0x24 = some '$' := by rfl
  have quote : Iso2022Jp.single? .ascii 0x22 = some '"' := by rfl
  have made : (Iso2022Jp.decoder.made Iso2022Jp.decoder.start [0x24, 0x22]).bytes =
      [0x24, 0x22] := by
    simp [Decoder.made, Decoder.segments, Iso2022Jp.read, dollar, quote, Segment.marked]
    rfl
  have foreign : isUtf8Label "iso-2022-jp" = false := by rfl
  have opens : (Collaborators.standard.openSession {} "iso-2022-jp" utf8Label).1 =
      .ok (.decoding .iso2022Jp) := by rfl
  refine ⟨restart, _, rfl, ?_, ?_⟩
  · rw [(conversions_forget_history restart _ _ _ rfl (.ofSettings [.locale "iso-2022-jp"]) {}
      [0x24, 0x22]).1 rfl, value_localeToUtf8 restart (by intro cached kept; cases kept) {}]
    change (if isUtf8Label "iso-2022-jp" then Converted.asIs else
      Collaborators.standard.convertAnew {} "iso-2022-jp" [0x24, 0x22]) = _
    rw [foreign, if_neg (by simp), Collaborators.convertAnew, opens]
    change Converted.ofResult (transcode webCodec (.decoding .iso2022Jp) [0x24, 0x22]).result = _
    rw [(WebSession.transcode_decoding .iso2022Jp [0x24, 0x22]).1]
    simp only [Converted.ofResult, Transcoded.bytes_mk]
    exact congrArg _ made
  · exact (conversions_forget_history restart _ _ _ rfl (.ofSettings [.enableIri true]) {} [0xE9]).2 rfl

end Session

end LinkCharset
