import LinkCharset.Codec
import LinkCharset.Utf8

/-! # Decoders

A decoder reads one item at the front of its input at a time: a character or a shift sequence, or a
malformed sequence. Decoding writes the text of whole items as UTF-8 while they fit, and the codec
made of a decoder says where in the input a malformed sequence starts. -/
namespace LinkCharset

/-- The item at the front of some input, read in a mode. -/
inductive Reading (Mode : Type) where
  /-- A sequence of `length` bytes that stands for some text, none in the case of a shift. -/
  | text (chars : List Char) (length : Nat) (next : Mode)
  /-- `bad` bytes that stand for nothing, found by looking at `extra` bytes after them. -/
  | malformed (bad extra : Nat) (next : Mode)
  /-- The same, found so late that `earlier` of the bad bytes stood in input read before. -/
  | overdue (bad extra earlier : Nat) (next : Mode)

structure Decoder where
  Mode : Type
  start : Mode
  /-- Reads an item that starts with the given byte and may go on into the rest. -/
  read : Mode → UInt8 → Bytes → Reading Mode
  /-- The room waited for before that item, by a decoder that may be busy. -/
  wants : Bool → UInt8 → Bytes → Nat
  /-- Whether the item leaves the decoder busy. -/
  busies : Bool → UInt8 → Bool

/-- Why decoding stopped. -/
inductive DecodeStop where
  | inputEmpty
  | outputFull
  | malformed (bad extra : Nat)
  deriving DecidableEq, Repr

/-- How far decoding came: `read` counts every byte of the input looked at for good, a malformed
sequence and the bytes behind it included. -/
structure Decoded (Mode : Type) where
  read : Nat
  output : Bytes
  stop : DecodeStop
  mode : Mode

/-- A later stop, seen from a run that has already read and written something. -/
def Decoded.after {Mode : Type} (read : Nat) (output : Bytes) (d : Decoded Mode) :
    Decoded Mode :=
  { d with read := read + d.read, output := output ++ d.output }

namespace Decoder

/-- Decodes an input as far as the room allows, from the middle of a call. -/
def decodeFrom (d : Decoder) (busy : Bool) (mode : d.Mode) (room : Nat) : Bytes → Decoded d.Mode
  | [] => ⟨0, [], .inputEmpty, mode⟩
  | b :: rest =>
    if room < d.wants busy b rest then ⟨0, [], .outputFull, mode⟩
    else
      match d.read mode b rest with
      | .text chars length next =>
        let text := Utf8.encode chars
        if text.length ≤ room then
          (decodeFrom d (d.busies busy b) next (room - text.length) (rest.drop (length - 1))).after
            length text
        else ⟨0, [], .outputFull, mode⟩
      | .malformed bad extra next => ⟨bad + extra, [], .malformed bad extra, next⟩
      | .overdue bad extra earlier next =>
        ⟨bad + extra - earlier, [], .malformed bad extra, next⟩
termination_by input => input.length

/-- Decodes the whole input as far as the room allows. -/
def decode (d : Decoder) (mode : d.Mode) (room : Nat) (input : Bytes) : Decoded d.Mode :=
  d.decodeFrom false mode room input

/-- The mode in which to go on after a malformed sequence: a lone bad byte leaves the decoder in the
mode it is in, after anything longer it starts afresh. -/
def resume (d : Decoder) (bad extra : Nat) (mode : d.Mode) : d.Mode :=
  if 1 < bad ∨ 0 < extra then d.start else mode

/-- A malformed sequence is taken back as far as it lies in this input, to be read again from the
byte after its first one. -/
def convert (d : Decoder) (mode : d.Mode) (input : Bytes) (room : Nat) : Conversion × d.Mode :=
  let r := d.decode mode room input
  match r.stop with
  | .inputEmpty => (⟨r.read, r.output.length, .complete, r.output⟩, r.mode)
  | .outputFull => (⟨r.read, r.output.length, .outputFull, r.output⟩, r.mode)
  | .malformed bad extra =>
    let status := if extra = 0 ∧ (input.drop r.read).isEmpty then .incomplete else .invalid
    (⟨r.read - (bad + extra), r.output.length, status, r.output⟩, d.resume bad extra r.mode)

end Decoder

end LinkCharset
