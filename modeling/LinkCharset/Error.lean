import LinkCharset.Bytes

/-! # What can go wrong

The causes of failure of each layer and the one wording of each. -/
namespace LinkCharset

/-- No conversion leads from one encoding to the other. -/
structure Unsupported where
  source : String
  target : String
  deriving DecidableEq, Repr

def Unsupported.message (e : Unsupported) : String :=
  "conversion from " ++ e.source ++ " to " ++ e.target ++ " isn't supported"

inductive TranscodeError where
  | noSourceCharset
  | unsupported (cause : Unsupported)
  | codec (code : Int)
  | unchanged
  /-- The codec asked to be called more often than its call limit allows. -/
  | stalled
  deriving DecidableEq, Repr

def TranscodeError.message : TranscodeError → String
  | .noSourceCharset => "no remote or current charset to convert from"
  | .unsupported cause => cause.message
  | .codec code => s!"unhandled codec error {code}"
  | .unchanged => "conversion left the input unchanged"
  | .stalled => "conversion makes no progress"

/-- The diagnostic of a host name conversion. -/
structure IdnError where
  reason : String
  deriving DecidableEq, Repr

inductive IdnOperation where
  | encode
  | decode
  deriving DecidableEq, Repr

def IdnOperation.name : IdnOperation → String
  | .encode => "encode"
  | .decode => "decode"

/-- The failures of a session's host name operations. -/
inductive HostError where
  | transcode (cause : TranscodeError)
  | idn (operation : IdnOperation) (cause : IdnError)
  | invalidUtf8 (reason : String)
  deriving DecidableEq, Repr

def HostError.message : HostError → String
  | .transcode cause => "transcode error: " ++ cause.message
  | .idn operation cause => "idn " ++ operation.name ++ " failed: " ++ cause.reason
  | .invalidUtf8 reason => "host is not valid utf-8: " ++ reason

/-- The text of the failure behind this one, if there is one. -/
def HostError.source? : HostError → Option String
  | .transcode cause => some cause.message
  | .idn _ cause => some cause.reason
  | .invalidUtf8 _ => none

end LinkCharset
