import LinkCharset.Codec
import LinkCharset.Utf8

/-! # Encoders

An encoder turns one character at a time into bytes, after a shift sequence where its state calls
for one. The codec made of an encoder takes the longest valid UTF-8 part of its input and closes
the output only if that is all of it. -/
namespace LinkCharset

structure Encoder where
  State : Type
  start : State
  /-- The sequence to be written before a character, and the state it leads to. -/
  shift? : State → Char → Option (Bytes × State)
  /-- The bytes of a character in a state that needs no shift for it. -/
  bytes? : State → Char → Option Bytes
  /-- The sequence that closes a text, and the state it leads to. -/
  closing? : State → Option (Bytes × State)
  /-- Characters that no state has bytes for, and that are not even reported as what they are. -/
  refuses : Char → Bool
  /-- The room waited for before a character, by an encoder that may be busy. -/
  wants : Bool → Char → Nat
  /-- Whether a character leaves the encoder busy. -/
  busies : Bool → Char → Bool

/-- Why encoding stopped. -/
inductive EncodeStop where
  | inputEmpty
  | outputFull
  /-- There are no bytes for the character last read, which is reported as the given one. -/
  | unmappable (reported : Char)
  /-- What follows is not UTF-8, for want of more input if `truncated`. -/
  | illFormed (truncated : Bool)
  deriving DecidableEq, Repr

/-- What is reported of a stop. -/
def EncodeStop.status : EncodeStop → Status
  | .inputEmpty => .complete
  | .outputFull => .outputFull
  | .unmappable _ => .invalid
  | .illFormed truncated => if truncated then .incomplete else .invalid

/-- How far encoding came: `read` counts a character that cannot be encoded too. -/
structure Encoded (State : Type) where
  read : Nat
  output : Bytes
  stop : EncodeStop
  state : State

/-- A later stop, seen from a run that has already read and written something. -/
def Encoded.after {State : Type} (read : Nat) (output : Bytes) (e : Encoded State) :
    Encoded State :=
  { e with read := read + e.read, output := output ++ e.output }

namespace Encoder

/-- An encoder whose bytes for a character depend on nothing else. -/
def stateless (m : Margin) (bytes? : Char → Option Bytes) : Encoder where
  State := Unit
  start := ()
  shift? _ _ := none
  bytes? _ c := bytes? c
  closing? _ := none
  refuses _ := false
  wants busy c := m.wants busy c.toNat
  busies busy c := m.busies busy c.toNat

/-- What is reported of a character that cannot be encoded. -/
def reported (e : Encoder) (c : Char) : Char := if e.refuses c then '\uFFFD' else c

/-- Writes the shift a character calls for, if it fits. A character that calls for none has room
already. -/
def shiftInto (e : Encoder) (busy : Bool) (state : e.State) (c : Char) (room : Nat) :
    Option (Bytes × e.State) :=
  match e.shift? state c with
  | none => if e.wants busy c ≤ room then some ([], state) else none
  | some (bytes, next) => if bytes.length ≤ room then some (bytes, next) else none

/-- Ends a text, which needs room only if there is something to be closed. -/
def close (e : Encoder) (state : e.State) (room : Nat) : Encoded e.State :=
  match e.closing? state with
  | none => ⟨0, [], .inputEmpty, state⟩
  | some (bytes, next) =>
    if bytes.length ≤ room then ⟨0, bytes, .inputEmpty, next⟩ else ⟨0, [], .outputFull, state⟩

/-- Encodes characters as far as the room allows, and closes the text after the last one. Behind its
shift a character waits for room once more, unless that is where it is found that it cannot be
encoded. -/
def encodeFrom (e : Encoder) (busy : Bool) (state : e.State) (room : Nat) : Bytes → Encoded e.State
  | [] => e.close state room
  | b :: rest =>
    match Utf8.front b rest with
    | .illFormed _ truncated => ⟨0, [], .illFormed truncated, state⟩
    | .char c length =>
      match e.shiftInto busy state c room with
      | none => ⟨0, [], .outputFull, state⟩
      | some (shift, shifted) =>
        let left := room - shift.length
        match e.bytes? shifted c with
        | none =>
          if e.refuses c && left < e.wants busy c then ⟨0, shift, .outputFull, shifted⟩
          else ⟨length, shift, .unmappable (e.reported c), shifted⟩
        | some bytes =>
          if max bytes.length (e.wants busy c) ≤ left then
            (encodeFrom e (e.busies busy c) shifted (left - bytes.length)
              (rest.drop (length - 1))).after length (shift ++ bytes)
          else ⟨0, shift, .outputFull, shifted⟩
termination_by input => input.length

/-- Encodes the whole input as far as the room allows. -/
def encode (e : Encoder) (state : e.State) (room : Nat) (input : Bytes) : Encoded e.State :=
  e.encodeFrom false state room input

/-- A character that cannot be encoded is taken back by the length of the one that is reported. -/
def convert (e : Encoder) (state : e.State) (input : Bytes) (room : Nat) :
    Conversion × e.State :=
  let r := e.encode state room input
  let read :=
    match r.stop with
    | .unmappable c => wordSub r.read (Utf8.encodeChar c).length
    | _ => r.read
  (⟨read, r.output.length, r.stop.status, r.output⟩, r.state)

end Encoder

end LinkCharset
