import LinkCharset.Codec.Web
import LinkCharset.Idn
import LinkCharset.Session

/-! # Standard collaborators

The codecs of the web, detection from the environment, and international host names. The world is
the environment. -/
namespace LinkCharset.Collaborators

/-- Opens a web codec in a world that this does not change. -/
def openWeb (source target : String) : Except Unsupported WebSession × List Event :=
  match WebSession.open? source target with
  | .ok (event, session) => (.ok session, [event])
  | .error e => (.error e, [])

def standard : Collaborators LocaleVariables WebSession where
  codec := webCodec
  openSession environment source target :=
    let (opened, events) := openWeb source target
    (opened, events, environment)
  detect environment :=
    let (charset, events) := environment.detect
    (charset, events, environment)
  toAscii environment host := (Idn.toAscii host, environment)
  toUnicode environment host := (Idn.toUnicode host, environment)

end LinkCharset.Collaborators
