import LinkCharset.DebugText
import LinkCharset.Error

/-! # Log events

Everything the library reports while it works, as data; severity, wording and fields are given in
one place. -/
namespace LinkCharset

/-- From the most to the least severe. -/
inductive Level where
  | error
  | warn
  | info
  | debug
  | trace
  deriving DecidableEq, Repr

def Level.rank : Level → Nat
  | .error => 0
  | .warn => 1
  | .info => 2
  | .debug => 3
  | .trace => 4

def Level.name : Level → String
  | .error => "ERROR"
  | .warn => "WARN"
  | .info => "INFO"
  | .debug => "DEBUG"
  | .trace => "TRACE"

inductive Event where
  | openedDecoder (source : String)
  | openedEncoder (target : String)
  | grewBuffer (written oldCapacity capacity : Nat)
  /-- The first byte of a transcoding that was copied as it is. -/
  | metMalformed (offset : Nat)
  | transcoded (inputLength outputLength invalid tooShort : Nat)
  | codecFailed (code : Int)
  | refusedLabel (text : String)
  | parsedCharset (charset : String)
  | charsetVariable (charset : String)
  | localeVariable (locale : String) (codeset : Option String)
  | detectedLocale (locale : Option String)
  | noRemoteSession (cause : String)
  | convertedRemote (source : String)
  | noLocale
  | localeChanged (locale : String)
  | noLocaleSession (cause : String)
  | idnFailed (operation : IdnOperation) (host cause : String)
  deriving DecidableEq, Repr

namespace Event

def level : Event → Level
  | codecFailed _ => .error
  | noLocaleSession _ => .warn
  | idnFailed .. => .warn
  | metMalformed _ => .debug
  | refusedLabel _ => .debug
  | detectedLocale _ => .debug
  | noRemoteSession _ => .debug
  | noLocale => .debug
  | _ => .trace

def message : Event → String
  | openedDecoder _ => "open decode session"
  | openedEncoder _ => "open encode session"
  | grewBuffer .. => "grow transcode buffer"
  | metMalformed _ => "incomplete or invalid multibyte sequence encountered"
  | transcoded .. => "transcoded"
  | codecFailed _ => "unhandled codec error"
  | refusedLabel _ => "encoding isn't valid"
  | parsedCharset _ => "parsed charset"
  | charsetVariable _ => "charset from CHARSET"
  | localeVariable .. => "charset from locale"
  | detectedLocale _ => "locale is unset, detected from system"
  | noRemoteSession _ => "can't open remote to utf-8 session"
  | convertedRemote _ => "remote converted to utf-8"
  | noLocale => "locale is unset, nothing to convert"
  | localeChanged _ => "locale changed, dropping cached session"
  | noLocaleSession _ => "can't open locale to utf-8 session"
  | idnFailed operation .. => "idn " ++ operation.name ++ " failed"

/-- The value of a field. -/
inductive Value where
  | number (n : Int)
  | text (s : String)
  deriving DecidableEq, Repr

def fields : Event → List (String × Value)
  | openedDecoder source => [("from", .text source)]
  | openedEncoder target => [("to", .text target)]
  | grewBuffer written oldCapacity capacity =>
    [("written", .number written), ("old_capacity", .number oldCapacity),
      ("capacity", .number capacity)]
  | metMalformed offset => [("offset", .number offset)]
  | transcoded inputLength outputLength invalid tooShort =>
    [("input_len", .number inputLength), ("output_len", .number outputLength),
      ("invalid", .number invalid), ("too_short", .number tooShort)]
  | codecFailed code => [("code", .number code)]
  | refusedLabel text => [("encoding", .text text)]
  | parsedCharset charset => [("charset", .text charset)]
  | charsetVariable charset => [("charset", .text charset)]
  | localeVariable locale codeset =>
    [("locale", .text locale), ("codeset", .text (DebugText.optional codeset))]
  | detectedLocale locale => [("locale", .text (DebugText.optional locale))]
  | noRemoteSession cause => [("cause", .text cause)]
  | convertedRemote source => [("from", .text source)]
  | noLocale => []
  | localeChanged locale => [("locale", .text locale)]
  | noLocaleSession cause => [("cause", .text cause)]
  | idnFailed _ host cause => [("host", .text host), ("cause", .text cause)]

/-- Whether a log kept at `limit` shows the event. -/
def shownAt (limit : Level) (e : Event) : Bool := e.level.rank ≤ limit.rank

end Event

end LinkCharset
