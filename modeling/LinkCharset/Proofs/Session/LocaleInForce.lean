import LinkCharset.Proofs.Session.Detection
import LinkCharset.Session.Scripted
import Mathlib.Data.List.DropRight

/-! # The local charset in force

The local charset is what the options or an operation gave last, or else the first charset that the
detector has found since. The charset state has one part for each thing that can be set in it:
whatever comes of a conversion, it stays as it was set. -/
namespace LinkCharset

namespace Operation

/-- The local charset that an operation gives, which may be none. -/
def given? : Operation → Option (Option String)
  | .setLocale charset => some charset
  | _ => none

/-- The local charset given last. -/
def lastGiven (options : Options) (history : List Operation) : Option String :=
  (history.filterMap given?).getLast?.getD options.locale

def uptoGiven (history : List Operation) : List Operation := history.rdropWhile (·.given?.isNone)

def sinceGiven (history : List Operation) : List Operation := history.rtakeWhile (·.given?.isNone)

def setsState : Operation → Bool
  | .changeState _ | .currentAsLocale | .resetUtf8Encode => true
  | _ => false

theorem uptoGiven_append_sinceGiven (history : List Operation) :
    uptoGiven history ++ sinceGiven history = history :=
  List.rdropWhile_append_rtakeWhile

section Given

variable {options : Options} {history : List Operation} {op : Operation}

theorem lastGiven_of_gives {charset : Option String} (gives : op.given? = some charset) :
    lastGiven options (history ++ [op]) = charset := by
  rw [lastGiven, List.filterMap_append, List.filterMap_cons_some gives, List.filterMap_nil,
    List.getLast?_concat, Option.getD_some]

theorem sinceGiven_of_gives {charset : Option String} (gives : op.given? = some charset) :
    sinceGiven (history ++ [op]) = [] :=
  List.rtakeWhile_concat_neg _ _ _ (by simp [gives])

variable (keeps : op.given? = none)
include keeps

theorem lastGiven_of_keeps : lastGiven options (history ++ [op]) = lastGiven options history := by
  rw [lastGiven, List.filterMap_append, List.filterMap_cons_none keeps, List.filterMap_nil,
    List.append_nil, lastGiven]

theorem uptoGiven_of_keeps : uptoGiven (history ++ [op]) = uptoGiven history :=
  List.rdropWhile_concat_pos _ _ _ (by simp [keeps])

theorem sinceGiven_of_keeps : sinceGiven (history ++ [op]) = sinceGiven history ++ [op] :=
  List.rtakeWhile_concat_pos _ _ _ (by simp [keeps])

end Given

end Operation

namespace Session

variable {ω σ : Type} (k : Collaborators ω σ) (s : Session ω σ)

def firstFound (answers : Answers) : Option String := answers.findSome? id

theorem firstFound_append (answers later : Answers) :
    firstFound (answers ++ later) = (firstFound answers).or (firstFound later) :=
  List.findSome?_append

theorem value_resolveLocale : (s.resolveLocale k).value = s.locale.or (firstFound (s.asked k)) := by
  rw [resolveLocale, asked]
  cases s.locale with
  | some locale => rfl
  | none =>
    change (k.detect s.world).1 = firstFound [(k.detect s.world).1]
    cases (k.detect s.world).1 <;> rfl

theorem locale_resolveLocale_eq :
    (s.resolveLocale k).session.locale = s.locale.or (firstFound (s.asked k)) :=
  (s.locale_resolveLocale k).trans (s.value_resolveLocale k)

theorem locale_of_gives {op : Operation} {charset : Option String}
    (gives : op.given? = some charset) : (s.perform k op).session.locale = charset := by
  cases op with
  | setLocale given =>
    cases gives
    rfl
  | _ => cases gives

/-- An operation that does not give the local charset leaves it as it was, or as it was answered. -/
theorem locale_perform {op : Operation} (keeps : op.given? = none) :
    (s.perform k op).session.locale = s.locale.or (firstFound (s.answered k op)) := by
  cases op with
  | locale => exact s.locale_resolveLocale_eq k
  | setLocale locale => cases keeps
  | currentAsLocale => exact s.locale_resolveLocale_eq k
  | resetUtf8Encode => exact (Option.or_none).symm
  | changeState change => exact (Option.or_none).symm
  | remoteToUtf8 input =>
    rcases s.session_remoteToUtf8 k input with ⟨world, left⟩
    exact (congrArg Session.locale left).trans (Option.or_none).symm
  | localeToUtf8 input =>
    exact (s.locale_localeToUtf8 k input).trans (s.locale_resolveLocale_eq k)
  | idnEncode host isUtf8 =>
    rcases s.session_idnEncode k host isUtf8 with ⟨world, left⟩
    exact (congrArg Session.locale left).trans (Option.or_none).symm
  | idnDecode host => exact (Option.or_none).symm

/-- The local charset after a history: what was given last, or else what was found first since. -/
theorem locale_performAll (options : Options) (world : ω) (history : List Operation) :
    ((Session.new options world : Session ω σ).performAll k history).2.locale =
      (Operation.lastGiven options history).or
        (firstFound (((Session.new options world : Session ω σ).performAll k
          (Operation.uptoGiven history)).2.answers k (Operation.sinceGiven history))) := by
  set new : Session ω σ := Session.new options world
  induction history using List.reverseRecOn with
  | nil => exact (Option.or_none).symm
  | append_singleton history op ih =>
    rw [performAll_append]
    change (perform k _ op).session.locale = _
    cases gives : op.given? with
    | some charset =>
      rw [Operation.lastGiven_of_gives gives, Operation.sinceGiven_of_gives gives, answers_nil]
      exact (locale_of_gives k _ gives).trans (Option.or_none).symm
    | none =>
      have here : (new.performAll k history).2 = ((new.performAll k
          (Operation.uptoGiven history)).2.performAll k (Operation.sinceGiven history)).2 := by
        rw [← congrArg (new.performAll k) (Operation.uptoGiven_append_sinceGiven history),
          performAll_append]
      rw [Operation.lastGiven_of_keeps gives, Operation.uptoGiven_of_keeps gives,
        Operation.sinceGiven_of_keeps gives, answers_append, firstFound_append, ← Option.or_assoc,
        ← ih, ← here, answers_cons, answers_nil, List.append_nil, locale_perform k _ gives]

theorem known_of_found {op : Operation} {charset : String} (found : some charset ∈ s.answers k [op]) :
    (s.perform k op).session.locale ≠ none := by
  rw [answers_cons, answers_nil, List.append_nil] at found
  cases gives : op.given? with
  | some given =>
    rw [answered_of_not_needs k s (by cases op <;> cases gives; rfl)] at found
    cases found
  | none =>
    rw [locale_perform k s gives, Ne, Option.or_eq_none_iff]
    rintro ⟨-, nothing⟩
    have lacks := List.findSome?_eq_none_iff.mp nothing _ found
    cases lacks

/-- A local charset that is set is not looked for, as long as nothing unsets it. -/
theorem answers_eq_nil_of_known {history : List Operation} (known : s.locale ≠ none)
    (keeps : ∀ op ∈ history, op ≠ .setLocale none) : s.answers k history = [] := by
  induction history generalizing s with
  | nil => rfl
  | cons op history ih =>
    rcases List.forall_mem_cons.mp keeps with ⟨first, later⟩
    rcases Option.ne_none_iff_exists'.mp known with ⟨charset, known⟩
    have unasked : s.answered k op = [] := by
      rw [answered, asked, known]
      exact ite_self _
    have stays : (s.perform k op).session.locale ≠ none := by
      cases gives : op.given? with
      | some given =>
        rw [locale_of_gives k s gives]
        rintro rfl
        cases op <;> cases gives
        exact first rfl
      | none =>
        rw [locale_perform k s gives, known]
        simp
    rw [answers_cons, unasked, ih _ stays later]
    rfl

theorem state_perform {op : Operation} (idle : op.setsState = false) :
    (s.perform k op).session.state = s.state := by
  cases op with
  | locale =>
    rcases s.session_resolveLocale k with ⟨locale, world, left⟩
    exact (congrArg Session.state left :)
  | setLocale locale => rfl
  | currentAsLocale => cases idle
  | resetUtf8Encode => cases idle
  | changeState change => cases idle
  | remoteToUtf8 input =>
    rcases s.session_remoteToUtf8 k input with ⟨world, left⟩
    exact (congrArg Session.state left :)
  | localeToUtf8 input =>
    rcases s.session_localeToUtf8 k input with ⟨locale, cached, world, left⟩
    exact (congrArg Session.state left :)
  | idnEncode host isUtf8 =>
    rcases s.session_idnEncode k host isUtf8 with ⟨world, left⟩
    exact (congrArg Session.state left :)
  | idnDecode host => rfl

theorem state_performAll {history : List Operation} (idle : ∀ op ∈ history, op.setsState = false) :
    (s.performAll k history).2.state = s.state := by
  induction history generalizing s with
  | nil => rfl
  | cons op history ih =>
    rcases List.forall_mem_cons.mp idle with ⟨first, later⟩
    exact (ih _ later).trans (s.state_perform k first)

theorem state_currentAsLocale :
    (s.perform k .currentAsLocale).session.state =
      { s.state with current := (s.perform k .currentAsLocale).session.locale } := by
  have found : (s.perform k .currentAsLocale).session.locale = (s.resolveLocale k).value :=
    s.locale_resolveLocale k
  rcases s.session_setCurrentAsLocale k with ⟨locale, world, left⟩
  rw [found]
  exact (congrArg Session.state left :)

/-- At any time the local charset is the one given last, by the options or in the history, or if
that is none, the first one that the detector has found since. The detector is asked once by an
operation that needs the local charset and finds it unset, and by nothing else; so after it has
found one it is not asked again until the local charset is unset. The charset state is changed only
by what is there to change it: taking the local charset sets what is current to the charset found,
or unsets it, and going back to the options sets the one flag. Whatever comes of anything else, it
stays. -/
theorem local_charset_is_given_or_found (options : Options) (world : ω) (history : List Operation) :
    let new : Session ω σ := Session.new options world
    let lived := new.performAll k history
    let last := (new.performAll k (Operation.uptoGiven history)).2
    lived.2.locale = (Operation.lastGiven options history).or
        (firstFound (last.answers k (Operation.sinceGiven history))) ∧
      (new.watched []).performAll k.watched history =
        (lived.1, lived.2.watched (new.answers k history)) ∧
      lived.1.calls.count .detect = (new.answers k history).length ∧
      (∀ op, (lived.2.perform k op).trace.calls.count .detect =
        if op.needsLocale ∧ lived.2.locale = none then 1 else 0) ∧
      (∀ op later charset, some charset ∈ lived.2.answers k [op] →
        (∀ next ∈ later, next ≠ .setLocale none) →
          .detect ∉ ((lived.2.perform k op).session.performAll k later).1.calls) ∧
      (∀ later, (∀ op ∈ later, op.setsState = false) →
        (lived.2.performAll k later).2.state = lived.2.state) ∧
      (∀ change, (lived.2.perform k (.changeState change)).session.state =
        lived.2.state.apply change) ∧
      (lived.2.perform k .currentAsLocale).session.state =
        { lived.2.state with current := (lived.2.perform k .currentAsLocale).session.locale } ∧
      (lived.2.perform k .resetUtf8Encode).session.state =
        { lived.2.state with utf8Encode := options.enableIri } := by
  intro new lived last
  refine ⟨locale_performAll k options world history, new.watched_performAll k [] history,
    new.count_detect_performAll k history,
    fun op => (lived.2.count_detect_perform k op).trans (lived.2.length_answered k op), ?_,
    fun later => lived.2.state_performAll k, fun change => rfl, lived.2.state_currentAsLocale k, ?_⟩
  · intro op later charset found keeps
    have known := lived.2.known_of_found k found
    rw [← List.count_eq_zero, count_detect_performAll, answers_eq_nil_of_known k _ known keeps]
    rfl
  · have kept : lived.2.options = options := new.options_performAll k history
    rw [← kept]
    rfl

/-- A local charset that is unset, and looked for in vain before it is found. -/
theorem local_charset_is_given_or_found_late :
    let stage : Stage := ⟨{}, none, some [none, some "koi8-r", some "big5"], none⟩
    let new : Session Stage (Scripted WebSession) :=
      Session.new (.ofSettings [.locale "latin1", .enableIri true]) stage
    let lived := new.performAll .scripted [.locale, .setLocale none, .localeToUtf8 [0xE9]]
    let found := (lived.2.perform .scripted .currentAsLocale).session
    let later : List Operation := [.localeToUtf8 [], .locale, .setLocale (some "utf8"), .locale]
    lived.2.locale = none ∧ some "koi8-r" ∈ lived.2.answers .scripted [.currentAsLocale] ∧
      (∀ next ∈ later, next ≠ .setLocale none) ∧
      .detect ∉ (found.performAll .scripted later).1.calls ∧
      found.state = { current := some "koi8-r" } ∧
      (∀ op ∈ later, op.setsState = false) ∧
      (lived.2.performAll .scripted later).2.state = {} := by
  intro stage new lived found later
  have law := local_charset_is_given_or_found Collaborators.scripted
    (.ofSettings [.locale "latin1", .enableIri true]) stage
    [.locale, .setLocale none, .localeToUtf8 [0xE9]]
  rcases law with ⟨locale, -, -, -, notAgain, stays, -, current, -⟩
  have keeps : ∀ next ∈ later, next ≠ .setLocale none := by decide
  have idle : ∀ op ∈ later, op.setsState = false := by decide
  have answer : some "koi8-r" ∈ lived.2.answers .scripted [.currentAsLocale] := by decide
  exact ⟨locale, answer, keeps, notAgain _ later _ answer keeps, current, idle, stays later idle⟩

end Session

end LinkCharset
