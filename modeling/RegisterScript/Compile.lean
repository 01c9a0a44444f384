import RegisterScript.Assembly
import RegisterScript.Backend.Generator
import RegisterScript.Disassembly
import RegisterScript.Disk
import RegisterScript.Script

/-!
# Compiling

A script can be compiled in two ways.  `compile` returns its blocks; `compileTo` writes each block
as soon as it is closed.  Several scripts are compiled on their own and written together, in the
order in which they were named, once all of them have compiled and no block has been defined twice.
A packet stream takes the way of `compileTo`.

A run that has been called off fails at the first block it closes.

Every function returns, besides its result, the notes of the run and the output as it was left.
-/

namespace RegisterScript

/-- The settings of a run. -/
structure Config where
  target : Target := .cArray
  mode : EmitMode := .defs
  passes : Passes := .none
  deriving DecidableEq, Repr

/-- What a run leaves behind, apart from its output. -/
structure Outcome (α : Type) where
  result : Except Fault α
  /-- What there was to report, in order. -/
  notes : List Note := []

/-! ## Emitters -/

/-- Refuses every block if the run has been called off. -/
def Emitter.cancelable {τ : Type} (canceled : Bool) (e : Emitter τ) : Emitter τ where
  emit t b := if canceled then (t, [], some .canceled) else e.emit t b

/-- Keeps the blocks, newest first. -/
def Emitter.collect : Emitter (List Block) where
  emit blocks b := (b :: blocks, [], none)

/-- Writes the blocks. -/
def Emitter.generate : Emitter (Generator × Output) where
  emit t b :=
    let (g, out, fault) := t.1.emit t.2 b
    ((g, out), [.emitting b.name, .listing b], fault)

/-! ## One script -/

/-- The blocks of a script, in the order of definition. -/
def compile (passes : Passes) (canceled : Bool) (s : Source) : Outcome (List Block) :=
  let (a, fault) := s.trace.feed (Assembly.sink passes (Emitter.collect.cancelable canceled))
    { target := [] }
  { result := match fault with
      | some f => .error f
      | none => .ok a.target.reverse
    notes := (a.notes.map (Note.within s.name)).reverse }

/-- Feeds a trace to a machine that writes each block it closes; the result is the names of the
blocks.  `name` is the name of the input, and `wrap` is applied to a fault of the trace or of its
feeding, but not to one of the output as a whole. -/
def writeTrace (config : Config) (canceled : Bool) (name : String) (wrap : Fault → Fault)
    (t : Trace) (out : Output) : Outcome (List String) × Output :=
  match config.target.format config.mode with
  | .error f => ({ result := .error f }, out)
  | .ok format =>
    let (a, fault) := t.feed
      (Assembly.sink config.passes (Emitter.generate.cancelable canceled))
      { target := ({ format := format }, out) }
    ({ result := match fault.map wrap <|> a.target.1.close with
        | some f => .error f
        | none => .ok a.machine.closedBlocks
       notes := (a.notes.map (Note.within name)).reverse }, a.target.2)

/-- Compiles a script straight into an output. -/
def compileTo (config : Config) (canceled : Bool) (s : Source) (out : Output) :
    Outcome (List String) × Output :=
  writeTrace config canceled s.name id s.trace out

/-- Turns a packet stream into any output format; a fault names the input. -/
def disassembleTo (config : Config) (canceled : Bool) (name : String) (bytes : Bytes)
    (ending : Ending) (out : Output) : Outcome (List String) × Output :=
  writeTrace config canceled name (.inFile name) (disassemble bytes ending) out

/-! ## Blocks that are already compiled -/

/-- Writes blocks up to the first failure; `notes` are those made so far, newest first. -/
def emitBlocksFrom (t : Generator × Output) (notes : List Note) :
    List Block → (Generator × Output) × List Note × Option Fault
  | [] => (t, notes, t.1.close)
  | b :: blocks =>
    let (t, remarks, fault) := Emitter.generate.emit t b
    let notes := (remarks.map fun r => { remark := r }).reverse ++ notes
    match fault with
    | some f => (t, notes, some f)
    | none => emitBlocksFrom t notes blocks

/-- Writes compiled blocks; the result is their names. -/
def emitBlocks (config : Config) (blocks : List Block) (out : Output) :
    Outcome (List String) × Output :=
  match config.target.format config.mode with
  | .error f => ({ result := .error f }, out)
  | .ok format =>
    let (t, notes, fault) := emitBlocksFrom ({ format := format }, out) [] blocks
    ({ result := match fault with
        | some f => .error f
        | none => .ok (blocks.map Block.name)
       notes := notes.reverse }, t.2)

/-! ## Several scripts -/

/-- An input of a run on several scripts: a script, or the reason why there is none. -/
structure Input where
  name : String
  opened : Except DeviceError Source

/-- The script at a name on a disk. -/
def Disk.input (d : Disk) (name : String) : Input where
  name := name
  opened := (d.find "open" name).map fun found =>
    let (bytes, ending) := found.2.read name
    Source.ofBytes name bytes ending

/-- Compiles one input on its own. -/
def Input.compile (passes : Passes) (canceled : Bool) (i : Input) : Outcome (List Block) :=
  match i.opened with
  | .error e => { result := .error (.device e) }
  | .ok s => RegisterScript.compile passes canceled s

/-- The fault of a result. -/
def faultOf {α : Type} : Except Fault α → Option Fault
  | .error f => some f
  | .ok _ => none

/-- The first block that is already defined in an earlier input; `seen` are the blocks of the inputs
before, each with the input that defines it. -/
def findDuplicate (seen : List (String × String)) : List (String × String) → Option Fault
  | [] => none
  | (file, block) :: rest =>
    match seen.lookup block with
    | some other => some (.duplicateBlock file block other)
    | none => findDuplicate ((block, file) :: seen) rest

/-- Compiles several scripts and writes their blocks together.  `finishing` is the order in which
the scripts finish compiling, by position: if several fail, the first to finish is the one
reported. -/
def compileAll (config : Config) (canceled : Bool) (inputs : List Input) (finishing : List Nat)
    (out : Output) : Outcome (List String) × Output :=
  let outcomes := inputs.map fun i => (i.name, i.compile config.passes canceled)
  let notes := outcomes.flatMap (·.2.notes)
  let failed := (finishing.findSome? fun i => (outcomes[i]?).bind fun o => faultOf o.2.result)
    <|> outcomes.findSome? fun o => faultOf o.2.result
  match failed with
  | some f => ({ result := .error f, notes := notes }, out)
  | none =>
    let files := outcomes.map fun o => (o.1, o.2.result.toOption.getD [])
    let defined := files.flatMap fun f => f.2.map fun b => (f.1, b.name)
    match findDuplicate [] defined with
    | some f => ({ result := .error f, notes := notes }, out)
    | none =>
      let (written, out) := emitBlocks config (files.flatMap (·.2)) out
      ({ written with notes := notes ++ written.notes }, out)

end RegisterScript
