import RegisterScript.Trace

/-!
# Machines with an emitter

An assembly is a building machine together with the place where its closed blocks go.  It is a sink:
each event first goes to the machine, and a block that the machine hands over goes on to the
emitter.  An emitter's refusal is reported as that of the event, but it cannot reach back into the
machine, which has already closed the block.
-/

namespace RegisterScript

/-- Something that takes closed blocks and keeps a state of type `τ`. -/
structure Emitter (τ : Type) where
  emit : τ → Block → τ × List Remark × Option Fault

/-- A machine with the state of its emitter and what there is to report so far. -/
structure Assembly (τ : Type) where
  machine : Machine := {}
  target : τ
  /-- What there is to report, newest first. -/
  notes : List Note := []

namespace Assembly

variable {τ : Type}

/-- Adds remarks made outside every container. -/
def remark (a : Assembly τ) (remarks : List Remark) : Assembly τ :=
  { a with notes := (remarks.map fun r => { remark := r }).reverse ++ a.notes }

/-- Hands a closed block to the emitter. -/
def handOver (emitter : Emitter τ) (a : Assembly τ) (b : Block) : Assembly τ × Option Fault :=
  let (target, remarks, fault) := emitter.emit a.target b
  ({ a with target := target }.remark remarks, fault.map (.emitting b.name))

/-- Carries out one event. -/
def accept (passes : Passes) (emitter : Emitter τ) (a : Assembly τ) (e : Event) :
    Assembly τ × Option Fault :=
  let reply := a.machine.step passes e
  let a := { a with machine := reply.machine, notes := reply.notes.reverse ++ a.notes }
  match reply.error, reply.handed with
  | some e, _ => (a, some (.machine e))
  | none, some b => a.handOver emitter b
  | none, none => (a, none)

/-- An assembly as a sink. -/
def sink (passes : Passes) (emitter : Emitter τ) : Sink (Assembly τ) where
  accept := accept passes emitter
  report a r := a.remark [r]

end Assembly

end RegisterScript
