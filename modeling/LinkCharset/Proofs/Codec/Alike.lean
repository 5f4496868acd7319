import LinkCharset.Transcode
import Mathlib.Tactic

/-! # Codec states that cannot be told apart

Two states of a codec are alike if they answer every sequence of calls in the same way. A run asks
nothing else of the state that it starts in, so that runs from states alike do and give the same,
and what a run leaves behind comes from where it started by calls alone. -/
namespace LinkCharset

namespace Codec

variable {σ : Type} {c : Codec σ}

def after (c : Codec σ) (codec : σ) (calls : List (Bytes × ℕ)) : σ :=
  calls.foldl (fun codec call => (c.convert codec call.1 call.2).2) codec

/-- States that no sequence of calls tells apart, and that allow runs of the same length. -/
def Alike (c : Codec σ) (a b : σ) : Prop :=
  ∀ calls : List (Bytes × ℕ),
    (∀ input room,
      (c.convert (c.after a calls) input room).1 = (c.convert (c.after b calls) input room).1) ∧
    ∀ length, c.callLimit (c.after a calls) length = c.callLimit (c.after b calls) length

namespace Alike

variable {a b : σ}

theorem refl (a : σ) : c.Alike a a := fun _ => ⟨fun _ _ => rfl, fun _ => rfl⟩

theorem report (alike : c.Alike a b) (input : Bytes) (room : ℕ) :
    (c.convert a input room).1 = (c.convert b input room).1 := (alike []).1 input room

theorem callLimit (alike : c.Alike a b) (length : ℕ) : c.callLimit a length = c.callLimit b length :=
  (alike []).2 length

theorem next (alike : c.Alike a b) (input : Bytes) (room : ℕ) :
    c.Alike (c.convert a input room).2 (c.convert b input room).2 := fun calls =>
  alike ((input, room) :: calls)

end Alike

/-- The states that a codec can come to from one that it has been opened in. -/
inductive ReachableFrom (c : Codec σ) (opened : σ) : σ → Prop where
  | opened : ReachableFrom c opened opened
  | convert {codec : σ} (before : ReachableFrom c opened codec) (input : Bytes) (room : ℕ) :
      ReachableFrom c opened (c.convert codec input room).2
  | reset {codec : σ} (before : ReachableFrom c opened codec) :
      ReachableFrom c opened (c.reset codec)

end Codec

def Cursor.inState {σ : Type} (s : Cursor σ) (codec : σ) : Cursor σ := { s with codec }

namespace Transcode

variable {σ : Type} {c : Codec σ} {total : ℕ}

def Turn.inState (codec : σ) : Turn σ → Turn σ
  | .done trace result _ => .done trace result codec
  | .more trace next => .more trace (next.inState codec)

def Turn.codec : Turn σ → σ
  | .done _ _ codec => codec
  | .more _ next => next.codec

theorem Turn.inState_after (before : Trace) (t : Turn σ) (codec : σ) :
    (t.after before).inState codec = (t.inState codec).after before := by
  cases t <;> rfl

theorem Turn.codec_after (before : Trace) (t : Turn σ) : (t.after before).codec = t.codec := by
  cases t <;> rfl

theorem skip_inState (s : Cursor σ) (codec : σ) :
    skip total (s.inState codec) = (skip total s).inState codec ∧
      (skip total s).codec = s.codec := by
  unfold skip
  rw [show (s.inState codec).remaining = s.remaining from rfl]
  cases s.remaining with
  | nil => exact ⟨rfl, rfl⟩
  | cons byte rest =>
    dsimp only
    split
    · exact ⟨rfl, rfl⟩
    · exact ⟨rfl, rfl⟩

theorem react_inState (status : Status) (s : Cursor σ) (codec : σ) :
    react total status (s.inState codec) = (react total status s).inState codec ∧
      (react total status s).codec = s.codec := by
  cases status with
  | complete => exact ⟨rfl, rfl⟩
  | outputFull => exact ⟨rfl, rfl⟩
  | failed code => exact ⟨rfl, rfl⟩
  | invalid => exact skip_inState s codec
  | incomplete => exact skip_inState s codec

theorem codec_turn (c : Codec σ) (total : ℕ) (s : Cursor σ) :
    (turn c total s).codec = (c.convert s.codec s.remaining s.buffer.room).2 := by
  rw [turn]
  dsimp only
  rw [Turn.codec_after, (react_inState _ _ s.codec).2]
  rfl

section Alike

variable {s : Cursor σ} {codec : σ} (alike : c.Alike s.codec codec)
include alike

theorem call_inState :
    call c (s.inState codec) =
      ((call c s).1, (call c s).2.1,
        (call c s).2.2.inState (c.convert codec s.remaining s.buffer.room).2) := by
  have report := alike.report s.remaining s.buffer.room
  unfold call
  dsimp only [Cursor.inState]
  rw [← report]

theorem turn_inState :
    turn c total (s.inState codec) =
      (turn c total s).inState (c.convert codec s.remaining s.buffer.room).2 := by
  rw [turn, turn, call_inState alike]
  dsimp only
  rw [(react_inState _ _ _).1, Turn.inState_after]

end Alike

theorem runFrom_inState {limit : ℕ} {s : Cursor σ} {codec : σ} (alike : c.Alike s.codec codec) :
    (runFrom c total limit (s.inState codec)).map (fun run => (run.trace, run.result)) =
      (runFrom c total limit s).map fun run => (run.trace, run.result) := by
  induction limit generalizing s codec with
  | zero => rfl
  | succ limit ih =>
    have later := alike.next s.remaining s.buffer.room
    rw [← codec_turn c total s] at later
    rw [runFrom, runFrom, turn_inState alike]
    cases turned : turn c total s with
    | done trace result codec => rfl
    | more trace next =>
      rw [turned] at later
      have same := congrArg (Option.map fun x => (trace ++ x.1, x.2)) (ih later)
      simpa only [Turn.inState, Option.map_map, Function.comp_def] using same

theorem reachable_runFrom {opened : σ} {limit : ℕ} {s : Cursor σ} {run : Run σ}
    (reachable : c.ReachableFrom opened s.codec) (stops : runFrom c total limit s = some run) :
    c.ReachableFrom opened run.codec := by
  have turned {s : Cursor σ} (reachable : c.ReachableFrom opened s.codec) :
      c.ReachableFrom opened (turn c total s).codec :=
    codec_turn c total s ▸ reachable.convert s.remaining s.buffer.room
  refine runFrom_induction (motive := fun s run =>
    c.ReachableFrom opened s.codec → c.ReachableFrom opened run.codec) ?_ ?_ stops reachable
  · intro s trace result codec ends reachable
    have here := turned reachable
    rwa [ends] at here
  · intro s trace next run goesOn ih reachable
    have here := turned reachable
    rw [goesOn] at here
    exact ih here

end Transcode

section Transcode

open Transcode

variable {σ : Type} {c : Codec σ}

/-- A conversion depends on the state it starts in only as far as calls can tell. -/
theorem transcode_alike {a b : σ} (alike : c.Alike a b) (input : Bytes) :
    (transcode c a input).trace = (transcode c b input).trace ∧
      (transcode c a input).result = (transcode c b input).result := by
  unfold transcode run?
  rw [alike.callLimit]
  split
  · exact ⟨rfl, rfl⟩
  · have same : (runFrom c input.length (c.callLimit b input.length) (start b input)).map
        (fun run => (run.trace, run.result)) =
      (runFrom c input.length (c.callLimit b input.length) (start a input)).map
        fun run => (run.trace, run.result) := runFrom_inState (s := start a input) alike
    cases ends : runFrom c input.length (c.callLimit b input.length) (start a input) with
    | none =>
      rw [ends, Option.map_none, Option.map_eq_none_iff] at same
      rw [same]
      exact ⟨rfl, rfl⟩
    | some run =>
      rw [ends, Option.map_some, Option.map_eq_some_iff] at same
      rcases same with ⟨run', ends', same⟩
      rw [ends']
      exact ⟨(congrArg Prod.fst same).symm, (congrArg Prod.snd same).symm⟩

/-- A conversion leaves a codec in a state that it comes to by calls. -/
theorem reachable_transcode {opened codec : σ} (reachable : c.ReachableFrom opened codec)
    (input : Bytes) : c.ReachableFrom opened (transcode c codec input).codec := by
  rcases transcode_cases c codec input with ⟨result, none⟩ | ⟨limit, stops⟩
  · rw [none]
    exact reachable
  · exact reachable_runFrom (s := start codec input) reachable stops

end Transcode

end LinkCharset
