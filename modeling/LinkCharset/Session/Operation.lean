import LinkCharset.Session

/-! # Operations on sessions

What can be asked of a session, as data, so that a history is a list. -/
namespace LinkCharset

inductive Operation where
  | locale
  | setLocale (locale : Option String)
  | currentAsLocale
  | resetUtf8Encode
  | changeState (change : CharsetState.Change)
  | remoteToUtf8 (input : Bytes)
  | localeToUtf8 (input : Bytes)
  | idnEncode (host : Bytes) (isUtf8 : Bool)
  | idnDecode (host : String)
  deriving DecidableEq, Repr

inductive Answer where
  | done
  | charset (charset : Option String)
  | transcoded (result : Except TranscodeError Transcoded)
  | converted (result : Converted)
  | host (result : Except HostError String)

namespace Outcome

variable {ω σ α β : Type}

def map (f : α → β) (o : Outcome ω σ α) : Outcome ω σ β := ⟨f o.value, o.trace, o.session⟩

end Outcome

namespace Session

variable {ω σ : Type}

def perform (k : Collaborators ω σ) (s : Session ω σ) : Operation → Outcome ω σ Answer
  | .locale => (s.resolveLocale k).map .charset
  | .setLocale locale => ⟨.done, [], s.setLocale locale⟩
  | .currentAsLocale => (s.setCurrentAsLocale k).map fun _ => .done
  | .resetUtf8Encode => ⟨.done, [], s.resetUtf8Encode⟩
  | .changeState change => ⟨.done, [], s.changeState change⟩
  | .remoteToUtf8 input => (s.remoteToUtf8 k input).map .transcoded
  | .localeToUtf8 input => (s.localeToUtf8 k input).map .converted
  | .idnEncode host isUtf8 => (s.idnEncode k host isUtf8).map .host
  | .idnDecode host => (s.idnDecode k host).map .host

/-- The session after a history, and everything done in it. -/
def performAll (k : Collaborators ω σ) (s : Session ω σ) : List Operation → Trace × Session ω σ
  | [] => ([], s)
  | op :: ops =>
    let o := s.perform k op
    let (trace, last) := performAll k o.session ops
    (o.trace ++ trace, last)

end Session

end LinkCharset
