import LinkCharset.Proofs.Session.Frame

/-! # The codec that a session keeps

Only a conversion from the local charset opens a codec that is kept, or lets go of one, and what is
kept afterwards is for the charset converted from. So no codec for UTF-8 is ever kept. A codec that
is kept for the charset is taken; else one is opened, after the one for another charset has been let
go. -/
namespace LinkCharset.Session

variable {ω σ : Type} (k : Collaborators ω σ) (s : Session ω σ)

@[simp] theorem cached_resolveLocale : (s.resolveLocale k).session.cached = s.cached := by
  rcases s.session_resolveLocale k with ⟨locale, world, left⟩
  rw [left]

@[simp] theorem cached_setCurrentAsLocale :
    (s.setCurrentAsLocale k).session.cached = s.cached := s.cached_resolveLocale k

@[simp] theorem cached_remoteToUtf8 (input : Bytes) :
    (s.remoteToUtf8 k input).session.cached = s.cached := by
  rcases s.session_remoteToUtf8 k input with ⟨world, left⟩
  rw [left]

@[simp] theorem cached_idnEncode (host : Bytes) (isUtf8 : Bool) :
    (s.idnEncode k host isUtf8).session.cached = s.cached := by
  rcases s.session_idnEncode k host isUtf8 with ⟨world, left⟩
  rw [left]

/-- What conversions from the local charset keep true of the codec kept stays true in any history.
-/
theorem cached_perform {p : Option (CachedCodec σ) → Prop}
    (stays : ∀ (s : Session ω σ) (input : Bytes), p s.cached → p (s.localeToUtf8 k input).session.cached)
    (holds : p s.cached) (op : Operation) : p (s.perform k op).session.cached := by
  cases op with
  | locale => exact (s.cached_resolveLocale k).symm ▸ holds
  | setLocale locale => exact holds
  | currentAsLocale => exact (s.cached_setCurrentAsLocale k).symm ▸ holds
  | resetUtf8Encode => exact holds
  | changeState change => exact holds
  | remoteToUtf8 input => exact (s.cached_remoteToUtf8 k input).symm ▸ holds
  | localeToUtf8 input => exact stays s input holds
  | idnEncode host isUtf8 => exact (s.cached_idnEncode k host isUtf8).symm ▸ holds
  | idnDecode host => exact holds

theorem cached_performAll {p : Option (CachedCodec σ) → Prop}
    (stays : ∀ (s : Session ω σ) (input : Bytes), p s.cached → p (s.localeToUtf8 k input).session.cached)
    (holds : p s.cached) (history : List Operation) : p (s.performAll k history).2.cached := by
  induction history generalizing s with
  | nil => exact holds
  | cons op history ih => exact ih _ (s.cached_perform k stays holds op)

/-! Taking the codec kept for a charset, and opening one. -/

def Lacks (locale : String) : Prop := ∀ cached, s.cached = some cached → cached.locale ≠ locale

section Opening

variable {k s} {locale : String} {codec : σ} {cause : Unsupported}

theorem kept_or_lacks (s : Session ω σ) (locale : String) :
    (∃ codec, s.cached = some ⟨locale, codec⟩) ∨ s.Lacks locale := by
  cases kept : s.cached with
  | none =>
    right
    intro cached here
    rw [kept] at here
    cases here
  | some cached =>
    by_cases same : cached.locale = locale
    · exact .inl ⟨cached.codec, by rw [← same]⟩
    · right
      intro other here
      rw [kept] at here
      cases here
      exact same

theorem localeCodec_of_kept (kept : s.cached = some ⟨locale, codec⟩) :
    s.localeCodec k locale = ⟨some codec, [], s⟩ := by
  rw [localeCodec]
  simp only [kept, if_true]

theorem openLocale_of_ok (opens : (k.openSession s.world locale utf8Label).1 = .ok codec) :
    (s.openLocale k locale).value = some codec ∧
      (s.openLocale k locale).session.cached = some ⟨locale, codec⟩ ∧
      (s.openLocale k locale).trace.calls = [.openSession locale utf8Label true] := by
  rw [openLocale]
  simp [opens, Except.isOk, Except.toBool]

theorem openLocale_of_error (fails : (k.openSession s.world locale utf8Label).1 = .error cause) :
    (s.openLocale k locale).value = none ∧ (s.openLocale k locale).session.cached = none ∧
      (s.openLocale k locale).trace.calls = [.openSession locale utf8Label false] := by
  rw [openLocale]
  simp [fails, Except.isOk, Except.toBool]

/-- Where no codec is kept for a charset, one kept for another is closed, and then one is opened. -/
theorem localeCodec_of_lacks (k : Collaborators ω σ) (lacks : s.Lacks locale) :
    ∃ t : Session ω σ, t.world = s.world ∧
      (s.localeCodec k locale).value = (t.openLocale k locale).value ∧
      (s.localeCodec k locale).session = (t.openLocale k locale).session ∧
      (s.localeCodec k locale).trace.calls =
        s.closing.calls ++ (t.openLocale k locale).trace.calls := by
  rw [localeCodec, closing]
  cases kept : s.cached with
  | none => exact ⟨s, rfl, rfl, rfl, rfl⟩
  | some cached =>
    dsimp only
    rw [if_neg (lacks cached kept)]
    exact ⟨{ s with cached := none }, rfl, rfl, rfl, rfl⟩

theorem localeCodec_of_ok (lacks : s.Lacks locale)
    (opens : (k.openSession s.world locale utf8Label).1 = .ok codec) :
    (s.localeCodec k locale).value = some codec ∧
      (s.localeCodec k locale).session.cached = some ⟨locale, codec⟩ ∧
      (s.localeCodec k locale).trace.calls =
        s.closing.calls ++ [.openSession locale utf8Label true] := by
  rcases localeCodec_of_lacks k lacks with ⟨t, world, value, session, calls⟩
  rw [value, session, calls]
  rcases openLocale_of_ok (s := t) (world ▸ opens) with ⟨found, kept, opening⟩
  exact ⟨found, kept, by rw [opening]⟩

theorem localeCodec_of_error (lacks : s.Lacks locale)
    (fails : (k.openSession s.world locale utf8Label).1 = .error cause) :
    (s.localeCodec k locale).value = none ∧ (s.localeCodec k locale).session.cached = none ∧
      (s.localeCodec k locale).trace.calls =
        s.closing.calls ++ [.openSession locale utf8Label false] := by
  rcases localeCodec_of_lacks k lacks with ⟨t, world, value, session, calls⟩
  rw [value, session, calls]
  rcases openLocale_of_error (s := t) (world ▸ fails) with ⟨found, kept, opening⟩
  exact ⟨found, kept, by rw [opening]⟩

end Opening

def KeepsOnly (p : String → Prop) : Prop := ∀ cached, s.cached = some cached → p cached.locale

theorem keepsOnly_localeCodec (locale : String) :
    (s.localeCodec k locale).session.KeepsOnly (· = locale) := by
  intro cached kept
  rcases s.kept_or_lacks locale with ⟨codec, keeps⟩ | lacks
  · rw [localeCodec_of_kept keeps, keeps] at kept
    cases kept
    rfl
  · cases opens : (k.openSession s.world locale utf8Label).1 with
    | ok codec =>
      rw [(localeCodec_of_ok lacks opens).2.1] at kept
      cases kept
      rfl
    | error cause =>
      rw [(localeCodec_of_error lacks opens).2.1] at kept
      cases kept

theorem keepsOnly_localeThroughCodec (locale : String) (input : Bytes) :
    (s.localeThroughCodec k locale input).session.KeepsOnly (· = locale) := by
  intro cached kept
  unfold localeThroughCodec Outcome.andThen at kept
  cases found : (s.localeCodec k locale).value with
  | none =>
    rw [found] at kept
    exact s.keepsOnly_localeCodec k locale cached kept
  | some codec =>
    rw [found] at kept
    simp only [convertLocale, Option.some.injEq] at kept
    rw [← kept]

def KeepsForeign : Prop := s.KeepsOnly fun locale => isUtf8Label locale = false

theorem KeepsForeign.of_cached_eq {s t : Session ω σ} (keeps : s.KeepsForeign)
    (same : t.cached = s.cached) : t.KeepsForeign := by
  intro cached kept
  exact keeps cached (same ▸ kept)

theorem keepsForeign_localeToUtf8 (keeps : s.KeepsForeign) (input : Bytes) :
    (s.localeToUtf8 k input).session.KeepsForeign := by
  have resolved := keeps.of_cached_eq (s.cached_resolveLocale k)
  unfold localeToUtf8 Outcome.andThen
  cases (s.resolveLocale k).value with
  | none => exact resolved
  | some locale =>
    dsimp only
    by_cases isUtf8 : isUtf8Label locale
    · rw [if_pos isUtf8]
      exact resolved
    · rw [if_neg isUtf8]
      intro cached kept
      rw [keepsOnly_localeThroughCodec k _ locale input cached kept]
      simpa using isUtf8

theorem keepsForeign_performAll (keeps : s.KeepsForeign) (history : List Operation) :
    (s.performAll k history).2.KeepsForeign :=
  s.cached_performAll k (p := fun kept => ∀ c, kept = some c → isUtf8Label c.locale = false)
    (fun s input keeps => s.keepsForeign_localeToUtf8 k keeps input) keeps history

end LinkCharset.Session
