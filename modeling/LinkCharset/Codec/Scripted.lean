import LinkCharset.Codec

/-! # Scripted codecs

A codec that first plays a list of prepared reports and then falls back on a simple rule or on
another codec. It shows how a conversion reacts to every kind of report. -/
namespace LinkCharset

/-- What a scripted report writes. -/
inductive ScriptedOutput where
  /-- The input it claims to have read. -/
  | copy
  /-- A hyphen for every byte of room. -/
  | fill
  | bytes (output : Bytes)
  deriving DecidableEq, Repr

/-- A prepared report. Counts left out are the true ones. -/
structure ScriptedStep where
  status : Status
  read : Option Nat
  output : ScriptedOutput
  written : Option Nat
  deriving DecidableEq, Repr

/-- What answers once the script is played out. -/
inductive Fallback (σ : Type) where
  /-- Copies bytes and calls one value of them invalid. -/
  | identity (bad : UInt8)
  /-- Writes every byte twice. -/
  | doubling
  | codec (session : σ)

structure Scripted (σ : Type) where
  script : List ScriptedStep
  pending : List ScriptedStep
  /-- Room per input byte without which the fallback does nothing. -/
  starve : Nat
  fallback : Fallback σ

namespace ScriptedStep

def play (step : ScriptedStep) (input : Bytes) (room : Nat) : Conversion :=
  let read := step.read.getD input.length
  let output :=
    match step.output with
    | .copy => input.take read
    | .fill => List.replicate room 0x2D
    | .bytes output => output
  let placed := output.take room
  ⟨read, step.written.getD placed.length, step.status, placed⟩

end ScriptedStep

namespace Fallback

def identityReport (bad : UInt8) (input : Bytes) (room : Nat) : Conversion :=
  let valid := input.takeWhile (· != bad)
  let output := valid.take room
  let status :=
    if output.length < valid.length then .outputFull
    else if (input.drop valid.length).isEmpty then .complete
    else .invalid
  ⟨output.length, output.length, status, output⟩

def doublingReport (input : Bytes) (room : Nat) : Conversion :=
  let taken := input.take (room / 2)
  let output := taken.flatMap fun b => [b, b]
  let status := if taken.length < input.length then .outputFull else .complete
  ⟨taken.length, output.length, status, output⟩

def convert {σ : Type} (inner : Codec σ) (f : Fallback σ) (input : Bytes) (room : Nat) :
    Conversion × Fallback σ :=
  match f with
  | identity bad => (identityReport bad input room, f)
  | doubling => (doublingReport input room, f)
  | codec session =>
    let (report, next) := inner.convert session input room
    (report, .codec next)

def reset {σ : Type} (inner : Codec σ) : Fallback σ → Fallback σ
  | codec session => .codec (inner.reset session)
  | f => f

def callLimit {σ : Type} (inner : Codec σ) (f : Fallback σ) (length : Nat) : Nat :=
  match f with
  | codec session => inner.callLimit session length
  | _ => 2 * length + 2

end Fallback

namespace Scripted

variable {σ : Type}

def ofScript (script : List ScriptedStep) (starve : Nat) (fallback : Fallback σ) : Scripted σ :=
  ⟨script, script, starve, fallback⟩

/-- A codec as it is, with no script in front of it. -/
def plain (session : σ) : Scripted σ := ofScript [] 0 (.codec session)

/-- Whether the room is too small for the fallback to do anything. -/
def isStarved (s : Scripted σ) (input : Bytes) (room : Nat) : Bool :=
  s.starve != 0 && room < s.starve * input.length

def convert (inner : Codec σ) (s : Scripted σ) (input : Bytes) (room : Nat) :
    Conversion × Scripted σ :=
  match s.pending with
  | step :: pending => (step.play input room, { s with pending })
  | [] =>
    if s.isStarved input room then (⟨0, 0, .outputFull, []⟩, s)
    else
      let (report, fallback) := s.fallback.convert inner input room
      (report, { s with fallback })

def reset (inner : Codec σ) (s : Scripted σ) : Scripted σ :=
  { s with pending := s.script, fallback := s.fallback.reset inner }

/-- A starved call makes room for two bytes per input byte, so that as many calls as a byte needs
room precede each call of the fallback at most. -/
def codec (inner : Codec σ) : Codec (Scripted σ) where
  convert := convert inner
  reset := reset inner
  callLimit s length :=
    s.pending.length + (s.fallback.callLimit inner length + 1) * (s.starve + 1)

end Scripted

end LinkCharset
