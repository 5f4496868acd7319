import LinkCharset.Codec.Scripted
import LinkCharset.Session.Standard

/-! # Scripted collaborators

Collaborators that answer from prepared lists, each falling back on the standard one where no list
is given. -/
namespace LinkCharset

/-- The answer to one opening of a codec. -/
inductive ScriptedOpening where
  | codec (session : Scripted WebSession) (events : List Event)
  | refuse (cause : Unsupported)

/-- The environment, and what is left of each list that is given. -/
structure Stage where
  environment : LocaleVariables
  openings : Option (List ScriptedOpening)
  detections : Option (List (Option String))
  conversions : Option (List (Except IdnError String))

namespace Stage

def openSession (stage : Stage) (source target : String) :
    Except Unsupported (Scripted WebSession) × List Event × Stage :=
  match stage.openings with
  | none =>
    let (opened, events) := Collaborators.openWeb source target
    (opened.map Scripted.plain, events, stage)
  | some [] => (.error ⟨source, target⟩, [], stage)
  | some (.codec session events :: rest) =>
    (.ok session, events, { stage with openings := some rest })
  | some (.refuse cause :: rest) => (.error cause, [], { stage with openings := some rest })

def detect (stage : Stage) : Option String × List Event × Stage :=
  match stage.detections with
  | none =>
    let (charset, events) := stage.environment.detect
    (charset, events, stage)
  | some [] => (none, [], stage)
  | some (charset :: rest) => (charset, [], { stage with detections := some rest })

/-- Takes the next prepared conversion, or converts. -/
def convertHost (stage : Stage) (convert : String → Except IdnError String) (host : String) :
    Except IdnError String × Stage :=
  match stage.conversions with
  | none => (convert host, stage)
  | some [] => (.error ⟨"script used up"⟩, stage)
  | some (answer :: rest) => (answer, { stage with conversions := some rest })

end Stage

def Collaborators.scripted : Collaborators Stage (Scripted WebSession) where
  codec := Scripted.codec webCodec
  openSession := Stage.openSession
  detect := Stage.detect
  toAscii stage host := stage.convertHost Idn.toAscii host
  toUnicode stage host := stage.convertHost Idn.toUnicode host

end LinkCharset
