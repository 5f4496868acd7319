import LinkCharset.CharsetState
import LinkCharset.Codec.Web
import LinkCharset.Locale
import LinkCharset.Options
import LinkCharset.Transcode

/-! # Sessions

The charset context of one fetch: options, charset state, the local charset and the codec kept for
it. Codecs, locale detection and host name conversion are collaborators; every operation gives the
trace of what it asked of them. -/
namespace LinkCharset

/-- What a session relies on. `ω` is the state of the world that the collaborators live in, `σ` that
of a codec they have opened. -/
structure Collaborators (ω σ : Type) where
  codec : Codec σ
  openSession : ω → (source target : String) → Except Unsupported σ × List Event × ω
  detect : ω → Option String × List Event × ω
  toAscii : ω → String → Except IdnError String × ω
  toUnicode : ω → String → Except IdnError String × ω

/-- The codec from a local charset to UTF-8. -/
structure CachedCodec (σ : Type) where
  locale : String
  codec : σ

structure Session (ω σ : Type) where
  options : Options
  state : CharsetState
  locale : Option String
  cached : Option (CachedCodec σ)
  world : ω

/-- What an operation gives, did and leaves behind. -/
structure Outcome (ω σ α : Type) where
  value : α
  trace : Trace
  session : Session ω σ

/-- The result of a conversion that may leave its input as it is. -/
inductive Converted where
  | asIs
  | converted (bytes : Bytes)
  deriving DecidableEq, Repr

def Converted.bytes (input : Bytes) : Converted → Bytes
  | asIs => input
  | converted bytes => bytes

namespace Outcome

variable {ω σ α β : Type}

/-- Goes on with a value, keeping the trace in order. -/
def andThen (o : Outcome ω σ α) (f : α → Session ω σ → Outcome ω σ β) : Outcome ω σ β :=
  let r := f o.value o.session
  { r with trace := o.trace ++ r.trace }

end Outcome

namespace Session

variable {ω σ : Type}

/-- The encoding that every conversion of a session leads to. -/
def utf8Label : String := "UTF-8"

def new (options : Options) (world : ω) : Session ω σ :=
  ⟨options, {}, options.locale, none, world⟩

/-- The local charset, detected when it is needed and unset. -/
def resolveLocale (k : Collaborators ω σ) (s : Session ω σ) : Outcome ω σ (Option String) :=
  match s.locale with
  | some locale => ⟨some locale, [], s⟩
  | none =>
    let (locale, events, world) := k.detect s.world
    ⟨locale, .call .detect :: Trace.ofEvents events ++ [.event (.detectedLocale locale)],
      { s with locale, world }⟩

def setLocale (s : Session ω σ) (locale : Option String) : Session ω σ := { s with locale }

def changeState (s : Session ω σ) (change : CharsetState.Change) : Session ω σ :=
  { s with state := s.state.apply change }

/-- Links found from now on are in the local charset. -/
def setCurrentAsLocale (k : Collaborators ω σ) (s : Session ω σ) : Outcome ω σ Unit :=
  (s.resolveLocale k).andThen fun locale s => ⟨(), [], s.changeState (.setCurrent locale)⟩

/-- The flag goes back to what the options say. -/
def resetUtf8Encode (s : Session ω σ) : Session ω σ :=
  s.changeState (.setUtf8Encode s.options.enableIri)

/-- The charset of remote text: the one forced by the options, else the current one. -/
def remoteSource? (s : Session ω σ) : Option String :=
  s.options.encodingRemote.or s.state.current

/-- A conversion that gives back its input counts as a failure. -/
def judgeRemote (source : String) (input : Bytes) :
    Except TranscodeError Transcoded → Except TranscodeError Transcoded × Trace
  | .error e => (.error e, [])
  | .ok output =>
    if output.bytes = input then (.error .unchanged, [])
    else (.ok output, [.event (.convertedRemote source)])

def remoteToUtf8 (k : Collaborators ω σ) (input : Bytes) (s : Session ω σ) :
    Outcome ω σ (Except TranscodeError Transcoded) :=
  match s.remoteSource? with
  | none => ⟨.error .noSourceCharset, [], s⟩
  | some source =>
    let (opened, events, world) := k.openSession s.world source utf8Label
    let opening := .call (.openSession source utf8Label opened.isOk) :: Trace.ofEvents events
    let s := { s with world }
    match opened with
    | .error e => ⟨.error (.unsupported e), opening ++ [.event (.noRemoteSession e.message)], s⟩
    | .ok codec =>
      let run := transcode k.codec codec input
      let (result, verdict) := judgeRemote source input run.result
      ⟨result, opening ++ run.trace ++ .call .close :: verdict, s⟩

/-- Opens a codec for a local charset and keeps it. -/
def openLocale (k : Collaborators ω σ) (locale : String) (s : Session ω σ) :
    Outcome ω σ (Option σ) :=
  let (opened, events, world) := k.openSession s.world locale utf8Label
  let opening := .call (.openSession locale utf8Label opened.isOk) :: Trace.ofEvents events
  match opened with
  | .ok codec => ⟨some codec, opening, { s with cached := some ⟨locale, codec⟩, world }⟩
  | .error e =>
    ⟨none, opening ++ [.event (.noLocaleSession e.message)], { s with cached := none, world }⟩

/-- The codec kept for a local charset, opened if there is none. One that was kept for another
charset is closed first. -/
def localeCodec (k : Collaborators ω σ) (locale : String) (s : Session ω σ) :
    Outcome ω σ (Option σ) :=
  match s.cached with
  | none => s.openLocale k locale
  | some cached =>
    if cached.locale = locale then ⟨some cached.codec, [], s⟩
    else
      let opened := { s with cached := none }.openLocale k locale
      { opened with
        trace := .event (.localeChanged locale) :: .call .close :: opened.trace }

/-- Runs the kept codec from its initial state and keeps the state it ends in. -/
def convertLocale (k : Collaborators ω σ) (locale : String) (codec : σ) (input : Bytes)
    (s : Session ω σ) : Outcome ω σ Converted :=
  let run := transcode k.codec (k.codec.reset codec) input
  let value :=
    match run.result with
    | .ok output => Converted.converted output.bytes
    | .error _ => .asIs
  ⟨value, .call .reset :: run.trace, { s with cached := some ⟨locale, run.codec⟩ }⟩

/-- Converts from a local charset, or leaves the input as it is if no codec can be had for it. -/
def localeThroughCodec (k : Collaborators ω σ) (locale : String) (input : Bytes)
    (s : Session ω σ) : Outcome ω σ Converted :=
  (s.localeCodec k locale).andThen fun
    | none, s => ⟨.asIs, [], s⟩
    | some codec, s => s.convertLocale k locale codec input

def localeToUtf8 (k : Collaborators ω σ) (input : Bytes) (s : Session ω σ) :
    Outcome ω σ Converted :=
  (s.resolveLocale k).andThen fun
    | none, s => ⟨.asIs, [.event .noLocale], s⟩
    | some locale, s =>
      if isUtf8Label locale then ⟨.asIs, [], s⟩ else s.localeThroughCodec k locale input

def idnResult (operation : IdnOperation) (host : String) :
    Except IdnError String → Except HostError String × Trace
  | .ok converted => (.ok converted, [])
  | .error e => (.error (.idn operation e), [.event (.idnFailed operation host e.reason)])

/-- Passes a host on if it is UTF-8. -/
def encodeHost (k : Collaborators ω σ) (host : Bytes) (s : Session ω σ) :
    Outcome ω σ (Except HostError String) :=
  match Utf8.validate host with
  | .error fault => ⟨.error (.invalidUtf8 fault.message), [], s⟩
  | .ok chars =>
    let text := String.ofList chars
    let (answer, world) := k.toAscii s.world text
    let (result, verdict) := idnResult .encode text answer
    ⟨result, .call (.toAscii text) :: verdict, { s with world }⟩

/-- The ASCII form of a host, which is converted from the remote charset unless it is UTF-8. -/
def idnEncode (k : Collaborators ω σ) (host : Bytes) (isUtf8 : Bool) (s : Session ω σ) :
    Outcome ω σ (Except HostError String) :=
  if isUtf8 then s.encodeHost k host
  else
    (s.remoteToUtf8 k host).andThen fun
      | .error e, s => ⟨.error (.transcode e), [], s⟩
      | .ok converted, s => s.encodeHost k converted.bytes

def idnDecode (k : Collaborators ω σ) (host : String) (s : Session ω σ) :
    Outcome ω σ (Except HostError String) :=
  let (answer, world) := k.toUnicode s.world host
  let (result, verdict) := idnResult .decode host answer
  ⟨result, .call (.toUnicode host) :: verdict, { s with world }⟩

/-- What ending a session does. -/
def closing (s : Session ω σ) : Trace := if s.cached.isSome then [.call .close] else []

def debugText (s : Session ω σ) : String :=
  DebugText.record "IriSession"
    [("options", s.options.debugText), ("state", s.state.debugText),
     ("locale", DebugText.optional s.locale),
     ("locale_session", DebugText.optional (s.cached.map (·.locale)))] true

end Session

end LinkCharset
