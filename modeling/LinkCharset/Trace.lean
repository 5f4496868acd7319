import LinkCharset.Codec
import LinkCharset.Event

/-! # Traces

What an operation did, in order: the calls on its collaborators, the events it logged, and the
output it produced, by conversion or by copying an input byte as it is. -/
namespace LinkCharset

inductive Call where
  | openSession (source target : String) (isOpened : Bool)
  | convert (input : Bytes) (room : Nat) (report : Conversion)
  | reset
  | close
  | detect
  | toAscii (host : String)
  | toUnicode (host : String)
  deriving DecidableEq, Repr

inductive Note where
  | call (c : Call)
  | event (e : Event)
  /-- What a conversion call left at the start of its room, as far as it reports it written. -/
  | converted (output : Bytes)
  | copied (byte : UInt8)
  deriving DecidableEq, Repr

abbrev Trace := List Note

def Trace.ofEvents (events : List Event) : Trace := events.map .event

def Trace.calls (t : Trace) : List Call :=
  t.filterMap fun
    | .call c => some c
    | _ => none

@[simp] theorem Trace.calls_nil : Trace.calls [] = [] := rfl

@[simp] theorem Trace.calls_cons_call (c : Call) (t : Trace) :
    Trace.calls (.call c :: t) = c :: t.calls := rfl

@[simp] theorem Trace.calls_cons_event (e : Event) (t : Trace) :
    Trace.calls (.event e :: t) = t.calls := rfl

@[simp] theorem Trace.calls_cons_converted (output : Bytes) (t : Trace) :
    Trace.calls (.converted output :: t) = t.calls := rfl

@[simp] theorem Trace.calls_cons_copied (b : UInt8) (t : Trace) :
    Trace.calls (.copied b :: t) = t.calls := rfl

@[simp] theorem Trace.calls_append (t u : Trace) : (t ++ u).calls = t.calls ++ u.calls :=
  List.filterMap_append

@[simp] theorem Trace.calls_ofEvents (events : List Event) : (Trace.ofEvents events).calls = [] := by
  simp [ofEvents, calls, List.filterMap_map]

def Trace.events (t : Trace) : List Event :=
  t.filterMap fun
    | .event e => some e
    | _ => none

@[simp] theorem Trace.events_append (t u : Trace) : (t ++ u).events = t.events ++ u.events :=
  List.filterMap_append

def Trace.copiedBytes (t : Trace) : Bytes :=
  t.filterMap fun
    | .copied b => some b
    | _ => none

@[simp] theorem Trace.copiedBytes_nil : Trace.copiedBytes [] = [] := rfl

@[simp] theorem Trace.copiedBytes_cons_call (c : Call) (t : Trace) :
    Trace.copiedBytes (.call c :: t) = t.copiedBytes := rfl

@[simp] theorem Trace.copiedBytes_cons_event (e : Event) (t : Trace) :
    Trace.copiedBytes (.event e :: t) = t.copiedBytes := rfl

@[simp] theorem Trace.copiedBytes_append (t u : Trace) :
    (t ++ u).copiedBytes = t.copiedBytes ++ u.copiedBytes :=
  List.filterMap_append

@[simp] theorem Trace.copiedBytes_ofEvents (events : List Event) :
    (Trace.ofEvents events).copiedBytes = [] := by
  simp [ofEvents, copiedBytes, List.filterMap_map]

/-- Everything produced, in order. -/
def Trace.output (t : Trace) : Bytes :=
  t.flatMap fun
    | .converted output => output
    | .copied b => [b]
    | _ => []

@[simp] theorem Trace.output_append (t u : Trace) : (t ++ u).output = t.output ++ u.output :=
  List.flatMap_append

end LinkCharset
