import LinkCharset.Session.Standard

/-! # Benchmarks

The files that conversion speed is measured on, and the loop that is measured: one codec, reset
before each conversion of the same content. -/
namespace LinkCharset.Benchmark

/-- Input together with the charset it is written in. -/
structure File where
  name : String
  charset : String
  content : Bytes
  deriving DecidableEq, Repr

inductive Group where
  | small
  | large
  deriving DecidableEq, Repr

def Group.name : Group → String
  | .small => "Small"
  | .large => "Large"

structure Case where
  name : String
  group : Group
  file : File
  deriving DecidableEq, Repr

namespace Case

def small (name : String) (file : File) : Case := ⟨name, .small, file⟩

def large (name : String) (file : File) : Case := ⟨name, .large, file⟩

end Case

/-- Converts a content again and again through one codec. -/
def iterate {σ : Type} (c : Codec σ) (content : Bytes) :
    Nat → σ → List (Except TranscodeError Transcoded) × Trace
  | 0, _ => ([], [])
  | n + 1, codec =>
    let run := transcode c (c.reset codec) content
    let (results, trace) := iterate c content n run.codec
    (run.result :: results, run.trace ++ trace)

def File.run (f : File) (iterations : Nat) :
    Except Unsupported (List (Except TranscodeError Transcoded)) × Trace :=
  match WebSession.open? f.charset Session.utf8Label with
  | .error e => (.error e, [])
  | .ok (event, session) =>
    let (results, trace) := iterate webCodec f.content iterations session
    (.ok results, .event event :: trace)

end LinkCharset.Benchmark
