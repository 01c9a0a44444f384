import RegisterScript.Fault

/-!
# Traces and sinks

Blocks are described by events, and a sink takes them one at a time.  Here the whole sequence is
worked out first and then fed to the sink.  It is a `Trace`: events and remarks in order, and, if
describing could not be finished, the fault that ended it.  A sink that refuses an event ends the
feeding there; what comes later in the trace, its fault included, is then never seen.  So it comes
to the same as working out each event only when the sink has taken the one before it.

Each event carries the `Blame` for a refusal: how the sink's fault is wrapped on its way out.

* `Trace.feed`, the one loop over a trace.
* `Recorder`, a sink that writes down what it gets and can be told to refuse.
-/

namespace RegisterScript

/-- How the refusal of an event is reported. -/
inductive Blame where
  /-- As it is. -/
  | bare
  /-- At a place in a script. -/
  | place (location : Location)
  /-- At the primitive setting in the tag of a packet. -/
  | tagPrim (block : String)
  /-- At a write of a packet. -/
  | write (block : String) (index : Nat)
  deriving DecidableEq, Repr

/-- The fault with its blame. -/
def Blame.wrap : Blame → Fault → Fault
  | bare, f => f
  | place location, f => .located location f
  | tagPrim block, f => .inTagPrim block f
  | write block index, f => .inWrite block index f

/-- One item of a trace. -/
inductive TraceItem where
  | event (blame : Blame) (event : Event)
  | remark (remark : Remark)
  deriving DecidableEq, Repr

/-- A whole description: what is to be done, and why it stops early if it does. -/
structure Trace where
  items : List TraceItem
  fault : Option Fault := none
  deriving DecidableEq, Repr

/-- Something that takes events. -/
structure Sink (σ : Type) where
  /-- Takes an event, and may refuse it. -/
  accept : σ → Event → σ × Option Fault
  /-- Takes note of a remark. -/
  report : σ → Remark → σ

/-- Feeds items to a sink up to the first refusal. -/
def feedItems {σ : Type} (sink : Sink σ) : σ → List TraceItem → σ × Option Fault
  | s, [] => (s, none)
  | s, .remark r :: items => feedItems sink (sink.report s r) items
  | s, .event blame e :: items =>
    match sink.accept s e with
    | (s, some f) => (s, some (blame.wrap f))
    | (s, none) => feedItems sink s items

/-- Feeds a trace to a sink.  The trace's own fault counts only if nothing was refused. -/
def Trace.feed {σ : Type} (t : Trace) (sink : Sink σ) (s : σ) : σ × Option Fault :=
  match feedItems sink s t.items with
  | (s, some f) => (s, some f)
  | (s, none) => (s, t.fault)

/-! ## Recording -/

/-- What a recording sink has got so far. -/
structure Recorder where
  /-- The events, newest first. -/
  events : List Event := []
  /-- How many there are. -/
  count : Nat := 0
  /-- The remarks, newest first. -/
  remarks : List Remark := []
  deriving DecidableEq, Repr

/-- A sink that records every event; the event with number `failAt`, counting from one, is recorded
and then refused with `fault`. -/
def Recorder.sink (failAt : Option Nat) (fault : Fault) : Sink Recorder where
  accept s e :=
    let count := s.count + 1
    ({ s with events := e :: s.events, count := count },
      if failAt = some count then some fault else none)
  report s r := { s with remarks := r :: s.remarks }

end RegisterScript
