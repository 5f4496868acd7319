import LinkCharset.Proofs.Session.Calls

/-! # What is asked of the detector, and what it answers

A detector can be watched from the world: its answers are written down there as it gives them, and a
session notices nothing of it. So the answers that a history gets are those that a watched detector
gives in it. An operation asks once if it needs the local charset and finds it unset, and no
operation asks otherwise. -/
namespace LinkCharset

variable {ω σ α : Type}

/-- What a detector has answered, the first answer first. -/
abbrev Answers := List (Option String)

/-- The same collaborators, in a world that takes down what the detector answers. -/
def Collaborators.watched (k : Collaborators ω σ) : Collaborators (ω × Answers) σ where
  codec := k.codec
  openSession world source target :=
    let (opened, events, next) := k.openSession world.1 source target
    (opened, events, next, world.2)
  detect world :=
    let (answer, events, next) := k.detect world.1
    (answer, events, next, world.2 ++ [answer])
  toAscii world host :=
    let (answer, next) := k.toAscii world.1 host
    (answer, next, world.2)
  toUnicode world host :=
    let (answer, next) := k.toUnicode world.1 host
    (answer, next, world.2)

def Session.watched (s : Session ω σ) (answers : Answers) : Session (ω × Answers) σ :=
  ⟨s.options, s.state, s.locale, s.cached, (s.world, answers)⟩

def Outcome.watched (o : Outcome ω σ α) (answers : Answers) : Outcome (ω × Answers) σ α :=
  ⟨o.value, o.trace, o.session.watched answers⟩

namespace Operation

def needsLocale : Operation → Bool
  | .locale | .currentAsLocale | .localeToUtf8 _ => true
  | _ => false

end Operation

namespace Session

variable (k : Collaborators ω σ) (s : Session ω σ)

def answers (history : List Operation) : Answers :=
  ((s.watched []).performAll k.watched history).2.world.2

/-- What the detector answers where the local charset is needed: nothing if it is set. -/
def asked : Answers :=
  match s.locale with
  | some _ => []
  | none => [(k.detect s.world).1]

def answered (op : Operation) : Answers := if op.needsLocale then s.asked k else []

theorem answered_of_not_needs {op : Operation} (idle : op.needsLocale = false) :
    s.answered k op = [] := by
  rw [answered, idle, if_neg (by simp)]

theorem length_answered (op : Operation) :
    (s.answered k op).length = if op.needsLocale ∧ s.locale = none then 1 else 0 := by
  rw [answered, asked]
  cases op.needsLocale <;> cases s.locale <;> rfl

section Watched

/-! A session that is watched does what it would do otherwise. -/

variable (before : Answers)

theorem watched_resolveLocale :
    (s.watched before).resolveLocale k.watched =
      (s.resolveLocale k).watched (before ++ s.asked k) := by
  have same : (s.watched before).locale = s.locale := rfl
  rw [resolveLocale, resolveLocale, asked, same]
  cases s.locale with
  | some locale =>
    rw [List.append_nil]
    rfl
  | none => rfl

theorem watched_setCurrentAsLocale :
    (s.watched before).setCurrentAsLocale k.watched =
      (s.setCurrentAsLocale k).watched (before ++ s.asked k) := by
  rw [setCurrentAsLocale, watched_resolveLocale]
  rfl

theorem watched_remoteToUtf8 (input : Bytes) :
    (s.watched before).remoteToUtf8 k.watched input = (s.remoteToUtf8 k input).watched before := by
  have same : (s.watched before).remoteSource? = s.remoteSource? := rfl
  rw [remoteToUtf8, remoteToUtf8, same]
  cases s.remoteSource? with
  | none => rfl
  | some source =>
    rcases opens : k.openSession s.world source utf8Label with ⟨cause | codec, events, world⟩ <;>
      simp only [Collaborators.watched, watched, Outcome.watched, opens]

theorem watched_encodeHost (host : Bytes) :
    (s.watched before).encodeHost k.watched host = (s.encodeHost k host).watched before := by
  rw [encodeHost, encodeHost]
  cases Utf8.validate host with
  | ok chars => rfl
  | error fault => rfl

theorem watched_idnEncode (host : Bytes) (isUtf8 : Bool) :
    (s.watched before).idnEncode k.watched host isUtf8 =
      (s.idnEncode k host isUtf8).watched before := by
  rw [idnEncode, idnEncode]
  cases isUtf8 with
  | true => exact s.watched_encodeHost k before host
  | false =>
    rw [if_neg (by simp), if_neg (by simp), watched_remoteToUtf8, Outcome.andThen, Outcome.andThen]
    simp only [Outcome.watched]
    cases (s.remoteToUtf8 k host).value with
    | error e => rfl
    | ok converted =>
      simp only [watched_encodeHost]
      rfl

theorem watched_openLocale (locale : String) :
    (s.watched before).openLocale k.watched locale = (s.openLocale k locale).watched before := by
  rw [openLocale, openLocale]
  rcases opens : k.openSession s.world locale utf8Label with ⟨cause | codec, events, world⟩ <;>
    simp only [Collaborators.watched, watched, Outcome.watched, opens]

theorem watched_localeCodec (locale : String) :
    (s.watched before).localeCodec k.watched locale = (s.localeCodec k locale).watched before := by
  have same : (s.watched before).cached = s.cached := rfl
  rw [localeCodec, localeCodec, same]
  cases s.cached with
  | none => exact s.watched_openLocale k before locale
  | some cached =>
    dsimp only
    split
    · rfl
    · have opened := watched_openLocale k { s with cached := none } before locale
      simp only [watched] at opened ⊢
      rw [opened]
      rfl

theorem watched_localeThroughCodec (locale : String) (input : Bytes) :
    (s.watched before).localeThroughCodec k.watched locale input =
      (s.localeThroughCodec k locale input).watched before := by
  rw [localeThroughCodec, localeThroughCodec, watched_localeCodec, Outcome.andThen, Outcome.andThen]
  simp only [Outcome.watched]
  cases (s.localeCodec k locale).value with
  | none => rfl
  | some codec => rfl

theorem watched_localeToUtf8 (input : Bytes) :
    (s.watched before).localeToUtf8 k.watched input =
      (s.localeToUtf8 k input).watched (before ++ s.asked k) := by
  rw [localeToUtf8, localeToUtf8, watched_resolveLocale, Outcome.andThen, Outcome.andThen]
  simp only [Outcome.watched]
  cases (s.resolveLocale k).value with
  | none => rfl
  | some locale =>
    dsimp only
    split
    · rfl
    · simp only [watched_localeThroughCodec]
      rfl

theorem watched_perform (op : Operation) :
    (s.watched before).perform k.watched op =
      (s.perform k op).watched (before ++ s.answered k op) := by
  have unasked {other : Operation} (idle : other.needsLocale = false) :
      before ++ s.answered k other = before := by
    rw [answered_of_not_needs k s idle, List.append_nil]
  cases op with
  | locale => exact congrArg (Outcome.map Answer.charset) (s.watched_resolveLocale k before)
  | currentAsLocale =>
    exact congrArg (Outcome.map fun _ => Answer.done) (s.watched_setCurrentAsLocale k before)
  | localeToUtf8 input =>
    exact congrArg (Outcome.map Answer.converted) (s.watched_localeToUtf8 k before input)
  | setLocale locale =>
    rw [unasked rfl]
    rfl
  | resetUtf8Encode =>
    rw [unasked rfl]
    rfl
  | changeState change =>
    rw [unasked rfl]
    rfl
  | remoteToUtf8 input =>
    rw [unasked rfl]
    exact congrArg (Outcome.map Answer.transcoded) (s.watched_remoteToUtf8 k before input)
  | idnEncode host isUtf8 =>
    rw [unasked rfl]
    exact congrArg (Outcome.map Answer.host) (s.watched_idnEncode k before host isUtf8)
  | idnDecode host =>
    rw [unasked rfl]
    rfl

/-- Watching makes no difference to a history, and takes down what is answered in it. -/
theorem watched_performAll (history : List Operation) :
    (s.watched before).performAll k.watched history =
      ((s.performAll k history).1,
        (s.performAll k history).2.watched (before ++ s.answers k history)) := by
  obtain ⟨given, noted⟩ : ∃ given : Answers, ∀ before,
      (s.watched before).performAll k.watched history =
        ((s.performAll k history).1, (s.performAll k history).2.watched (before ++ given)) := by
    induction history generalizing s with
    | nil => exact ⟨[], fun before => by rw [List.append_nil]; rfl⟩
    | cons op history ih =>
      rcases ih (s.perform k op).session with ⟨later, noted⟩
      refine ⟨s.answered k op ++ later, fun before => ?_⟩
      rw [performAll, watched_perform]
      simp only [Outcome.watched, noted, List.append_assoc]
      rfl
  have same : s.answers k history = given := congrArg (fun run => run.2.world.2) (noted [])
  rw [same, noted]

end Watched

@[simp] theorem answers_nil : s.answers k [] = [] := rfl

@[simp] theorem answers_cons (op : Operation) (history : List Operation) :
    s.answers k (op :: history) =
      s.answered k op ++ (s.perform k op).session.answers k history := by
  have later := (s.perform k op).session.watched_performAll k (s.answered k op) history
  have first := s.watched_perform k [] op
  rw [List.nil_append] at first
  rw [answers, performAll, first]
  exact congrArg (fun run => run.2.world.2) later

theorem performAll_append (history later : List Operation) :
    s.performAll k (history ++ later) =
      ((s.performAll k history).1 ++ ((s.performAll k history).2.performAll k later).1,
        ((s.performAll k history).2.performAll k later).2) := by
  induction history generalizing s with
  | nil => rfl
  | cons op history ih =>
    rw [List.cons_append, performAll, performAll, ih]
    simp only [List.append_assoc]

theorem answers_append (history later : List Operation) :
    s.answers k (history ++ later) =
      s.answers k history ++ (s.performAll k history).2.answers k later := by
  induction history generalizing s with
  | nil => rfl
  | cons op history ih =>
    rw [List.cons_append, answers_cons, answers_cons, ih, List.append_assoc]
    rfl

/-! An operation asks as often as it is answered. -/

theorem count_detect_eq_zero_of_isUse {calls : List Call} (uses : ∀ call ∈ calls, call.IsUse) :
    calls.count .detect = 0 :=
  List.count_eq_zero.mpr fun asks => uses _ asks

theorem count_detect_resolveLocale :
    (s.resolveLocale k).trace.calls.count .detect = (s.asked k).length := by
  rw [resolveLocale, asked]
  cases s.locale with
  | some locale => rfl
  | none => simp

theorem OpensAndCloses.count_detect {source? : Option String} {calls : List Call}
    (visit : OpensAndCloses source? calls) : calls.count .detect = 0 := by
  cases source? with
  | none =>
    rw [show calls = [] from visit]
    rfl
  | some source =>
    rcases visit with rfl | ⟨uses, areUses, rfl⟩
    · rfl
    · rw [List.cons_append, List.count_cons_of_ne (by simp), List.count_append,
        count_detect_eq_zero_of_isUse areUses]
      rfl

theorem count_detect_localeThroughCodec (locale : String) (input : Bytes) :
    (s.localeThroughCodec k locale input).trace.calls.count .detect = 0 := by
  rcases s.kept_or_lacks locale with ⟨codec, kept⟩ | lacks
  · rcases s.localeThroughCodec_of_kept k kept input with ⟨left, -, uses⟩
    exact count_detect_eq_zero_of_isUse uses
  · have closing : s.closing.calls.count .detect = 0 := by
      rw [Session.closing]
      split <;> rfl
    rcases s.localeThroughCodec_of_lacks k lacks input with
      ⟨left, uses, areUses, -, calls⟩ | ⟨-, calls⟩
    · rw [calls, List.count_append, closing, List.count_cons_of_ne (by simp),
        count_detect_eq_zero_of_isUse areUses]
    · rw [calls, List.count_append, closing]
      rfl

theorem count_detect_localeToUtf8 (input : Bytes) :
    (s.localeToUtf8 k input).trace.calls.count .detect = (s.asked k).length := by
  rw [localeToUtf8, Outcome.andThen, Trace.calls_append, List.count_append,
    count_detect_resolveLocale, Nat.add_eq_left]
  cases (s.resolveLocale k).value with
  | none => rfl
  | some locale =>
    dsimp only
    split
    · rfl
    · exact count_detect_localeThroughCodec k _ locale input

theorem count_detect_perform (op : Operation) :
    (s.perform k op).trace.calls.count .detect = (s.answered k op).length := by
  cases op with
  | locale => exact s.count_detect_resolveLocale k
  | setLocale locale => rfl
  | currentAsLocale =>
    change (s.setCurrentAsLocale k).trace.calls.count .detect = _
    rw [calls_setCurrentAsLocale]
    exact s.count_detect_resolveLocale k
  | resetUtf8Encode => rfl
  | changeState change => rfl
  | remoteToUtf8 input => exact (s.opensAndCloses_remoteToUtf8 k input).count_detect
  | localeToUtf8 input => exact s.count_detect_localeToUtf8 k input
  | idnEncode host isUtf8 =>
    rcases s.opensAndCloses_idnEncode k host isUtf8 with ⟨visit, asking, opens, asks, calls⟩
    change (s.idnEncode k host isUtf8).trace.calls.count .detect = 0
    rw [calls, List.count_append, opens.count_detect, List.count_eq_zero.mpr]
    intro detects
    rcases asks _ detects with ⟨text, other⟩
    cases other
  | idnDecode host =>
    change (.toUnicode host :: (idnResult .decode host _).2.calls).count .detect = 0
    rw [calls_idnResult]
    rfl

/-- The detector gives one answer each time that it is asked. -/
theorem count_detect_performAll (history : List Operation) :
    (s.performAll k history).1.calls.count .detect = (s.answers k history).length := by
  induction history generalizing s with
  | nil => rfl
  | cons op history ih =>
    rw [answers_cons, List.length_append, ← ih, ← count_detect_perform]
    exact (congrArg _ (Trace.calls_append _ _)).trans List.count_append

end Session

end LinkCharset
