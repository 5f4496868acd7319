import LinkCharset.Encoding
import LinkCharset.Event

/-! # The codecs of the web

From any encoding to UTF-8, and from UTF-8 to any encoding that is also written. -/
namespace LinkCharset

/-- A conversion under way, in one of the two directions. -/
inductive WebSession where
  | decode (source : Encoding) (mode : source.decoder.Mode)
  | encode (target : Encoding) (state : target.encoder.State)

namespace WebSession

def decoding (source : Encoding) : WebSession := .decode source source.decoder.start

def encoding (target : Encoding) : WebSession := .encode target target.encoder.start

def convert (s : WebSession) (input : Bytes) (room : Nat) : Conversion × WebSession :=
  match s with
  | decode source mode =>
    let (report, next) := source.decoder.convert mode input room
    (report, .decode source next)
  | encode target state =>
    let (report, next) := target.encoder.convert state input room
    (report, .encode target next)

def reset : WebSession → WebSession
  | decode source _ => decoding source
  | encode target _ => encoding target

/-- Opens the conversion between two labelled encodings. -/
def open? (source target : String) : Except Unsupported (Event × WebSession) :=
  match Encoding.ofLabel? source, Encoding.ofLabel? target with
  | some input, some output =>
    if output = .utf8 then .ok (.openedDecoder input.name, decoding input)
    else if input = .utf8 ∧ output.writtenAs = output then
      .ok (.openedEncoder output.name, encoding output)
    else .error ⟨source, target⟩
  | _, _ => .error ⟨source, target⟩

end WebSession

/-- Each call consumes a byte, copies one or makes room for a character, of which a few growths
are always enough. -/
def webCodec : Codec WebSession where
  convert := WebSession.convert
  reset := WebSession.reset
  callLimit _ length := 16 * length + 16

end LinkCharset
