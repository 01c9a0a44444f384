import RegisterScript.Draft
import RegisterScript.Optimize

/-!
# The building machine

Whatever describes blocks — a script, a packet stream, a caller — does so as a sequence of the
same few events: open a container, select a register, fill it, insert a macro, close the
container.

The machine turns events into blocks.  It keeps two arenas of containers, one for blocks and one
for macros, a directory from names to slots in them, and the slot of the container that is open.
At most one container is open; names are shared between blocks and macros and never given away
again.

Closing a block completes its drafts, warns about writes that do not fit their words, cleans the
block up and hands it over.  Closing a macro keeps it for insertion: an insertion copies the
macro's drafts into the open container, vertices moved by the offset.

Every operation answers with a `Reply`, which holds the machine as it is afterwards whether the
operation failed or not.  What becomes of a block that is handed over is outside the machine:
nothing that happens to it then can change the machine's state.

* `Event`, one step in describing blocks.
* `Machine.start`, `close`, `select`, `push`, `modify`, `insert`, and `Machine.step` for events.
* `Machine.state`, `closedBlocks` and `macroWrites?`, what can be asked of a machine.
-/

namespace RegisterScript

/-- One step in describing blocks and macros. -/
inductive Event where
  | startBlock (name : String)
  | startMacro (name : String)
  /-- Closes whatever is open. -/
  | close
  /-- Opens a register by its address. -/
  | select (address : UInt8)
  | push (operand : Operand)
  | modify (modifier : Modifier)
  /-- Inserts a macro, every vertex of it moved by the offset if there is one. -/
  | insert (name : String) (offset : Option Vec2)
  deriving DecidableEq, Repr

/-- A named run of drafts. -/
structure Container where
  name : String
  /-- The drafts, newest first; the newest is the one being filled. -/
  drafts : List Draft := []
  deriving DecidableEq, Repr

/-- The place of a container: which arena, and where in it. -/
structure Slot where
  kind : ContainerKind
  index : Nat
  deriving DecidableEq, Repr

/-- The state of the building machine. -/
structure Machine where
  blocks : Array Container := #[]
  macros : Array Container := #[]
  /-- The slot of each name, newest first. -/
  names : List (String × Slot) := []
  /-- The slot of the open container. -/
  active : Option Slot := none
  deriving DecidableEq, Repr

/-- Why the machine refused an event. -/
inductive MachineError where
  /-- A container cannot be started while another is open. -/
  | stillOpen (kind : ContainerKind) (name : String) (openKind : ContainerKind) (openName : String)
  /-- The name is taken. -/
  | nameTaken (kind : ContainerKind) (name : String)
  /-- There is no container to close. -/
  | nothingToEnd
  /-- The container to be closed is empty. -/
  | emptyContainer (kind : ContainerKind) (name : String)
  /-- The last register of the container to be closed is not ready. -/
  | unreadyAtEnd (kind : ContainerKind) (name : String) (last : Register)
  /-- Some register of a block that was closed is not ready. -/
  | incomplete (block : String) (register : Register)
  /-- A register is selected outside every container. -/
  | selectOutside (address : UInt8)
  /-- A register is selected while the one before it is not ready. -/
  | selectAfterUnready (address : UInt8) (last : Register)
  /-- The selected address belongs to no register. -/
  | unsupported (address : UInt8)
  /-- An operand comes outside every container. -/
  | pushOutside (operand : Operand)
  /-- An operand comes before any register. -/
  | pushBeforeRegister (operand : Operand)
  /-- A modifier comes outside every container. -/
  | modifyOutside (modifier : Modifier)
  /-- A modifier comes before any register. -/
  | modifyBeforeRegister (modifier : Modifier)
  /-- The open register does not take what it was given. -/
  | rejected (cause : Rejection)
  /-- A macro is inserted outside every container. -/
  | insertOutside (name : String)
  /-- A macro is inserted while the register before it is not ready. -/
  | insertAfterUnready (name : String) (last : Register)
  /-- The inserted name is no macro. -/
  | unknownMacro (name : String)
  /-- The inserted macro is the one being defined. -/
  | recursiveMacro (name : String)
  deriving DecidableEq, Repr

/-- The wording of a refusal. -/
def MachineError.message : MachineError → String
  | stillOpen kind name openKind openName =>
    "cannot start " ++ kind.word ++ " " ++ name ++ ", " ++ openKind.word ++ " " ++ openName
      ++ ": a block or macro is still open"
  | nameTaken kind name =>
    kind.word ++ " with name " ++ name ++ " already exists: name already in use"
  | nothingToEnd => "nothing to end: no active block or macro"
  | emptyContainer kind name => kind.word ++ " " ++ name ++ ": block or macro is empty"
  | unreadyAtEnd kind name last =>
    kind.word ++ " " ++ name ++ ": " ++ last.name ++ ": register is not fulfilled"
  | incomplete block register =>
    "block " ++ block ++ ": " ++ register.name ++ ": register is not fulfilled"
  | selectOutside address =>
    "cannot set " ++ addressName address ++ ": no active block or macro"
  | selectAfterUnready address last =>
    "cannot set " ++ addressName address ++ " after " ++ last.name ++ ": register is not fulfilled"
  | unsupported address => "unsupported register " ++ addressName address
  | pushOutside operand => "cannot push " ++ operand.render ++ ": no active block or macro"
  | pushBeforeRegister operand => "cannot push " ++ operand.render ++ ": no register to push to"
  | modifyOutside modifier => "cannot apply " ++ modifier.name ++ ": no active block or macro"
  | modifyBeforeRegister modifier => "cannot apply " ++ modifier.name ++ ": no register to push to"
  | rejected cause => cause.message
  | insertOutside name => "cannot insert macro " ++ name ++ ": no active block or macro"
  | insertAfterUnready name last =>
    "cannot insert macro " ++ name ++ " after " ++ last.name ++ ": register is not fulfilled"
  | unknownMacro name => "macro " ++ name ++ ": unknown macro"
  | recursiveMacro name => "macro " ++ name ++ ": macro cannot insert itself"

/-- What an operation leaves behind. -/
structure Reply where
  /-- The machine afterwards. -/
  machine : Machine
  /-- Why the operation was refused, if it was. -/
  error : Option MachineError := none
  /-- What there is to report, in order. -/
  notes : List Note := []
  /-- The block that was closed and is handed over. -/
  handed : Option Block := none
  deriving DecidableEq, Repr

/-! ## Containers -/

namespace Container

/-- The writes of a container in order, or the first register that is not ready. -/
def complete (c : Container) : Except Register (List Write) :=
  c.drafts.reverse.mapM fun d =>
    match d.complete? with
    | some w => .ok w
    | none => .error d.register

/-- The register that still has to be filled before anything else can come. -/
def unready? (c : Container) : Option Register :=
  match c.drafts with
  | last :: _ => if last.ready then none else some last.register
  | [] => none

end Container

namespace Machine

/-! ## Slots -/

/-- The arena of a kind of container. -/
def arena (m : Machine) : ContainerKind → Array Container
  | .block => m.blocks
  | .macroDef => m.macros

/-- The container in a slot. -/
def container? (m : Machine) (s : Slot) : Option Container := (m.arena s.kind)[s.index]?

/-- The slot of a name. -/
def slot? (m : Machine) (name : String) : Option Slot := m.names.lookup name

/-- The open container with its slot. -/
def current? (m : Machine) : Option (Slot × Container) := do
  let s ← m.active
  let c ← m.container? s
  return (s, c)

/-- Changes the drafts in a slot. -/
def setDrafts (m : Machine) (s : Slot) (drafts : List Draft) : Machine :=
  match s.kind with
  | .block => { m with blocks := m.blocks.modify s.index ({ · with drafts := drafts }) }
  | .macroDef => { m with macros := m.macros.modify s.index ({ · with drafts := drafts }) }

/-- The reply of an operation that changes nothing. -/
def refuse (m : Machine) (e : MachineError) : Reply := { machine := m, error := some e }

/-! ## Questions -/

/-- What a machine is doing. -/
inductive State where
  | idle
  | inBlock
  | inMacro
  deriving DecidableEq, Repr

/-- The name of a state. -/
def State.name : State → String
  | .idle => "idle"
  | .inBlock => "in block"
  | .inMacro => "in macro"

/-- The name of the state with a number, or the bare number if there is none. -/
def State.describeNumber (n : Int) : String :=
  match n with
  | .ofNat 0 => State.idle.name
  | .ofNat 1 => State.inBlock.name
  | .ofNat 2 => State.inMacro.name
  | n => "state(" ++ Text.signedDecimal n ++ ")"

/-- What the machine is doing. -/
def state (m : Machine) : State :=
  match m.active with
  | none => .idle
  | some ⟨.block, _⟩ => .inBlock
  | some ⟨.macroDef, _⟩ => .inMacro

/-- The names of the closed blocks, in the order of closing. -/
def closedBlocks (m : Machine) : List String :=
  m.blocks.toList.zipIdx.filterMap fun (c, i) =>
    if m.active = some ⟨.block, i⟩ then none else some c.name

/-- The writes of a closed macro. -/
def macroWrites? (m : Machine) (name : String) : Option (List Write) := do
  let s ← m.slot? name
  if s.kind = .macroDef ∧ m.active ≠ some s then
    let c ← m.container? s
    c.complete.toOption
  else none

/-! ## Opening and closing -/

/-- Opens a container. -/
def start (m : Machine) (kind : ContainerKind) (name : String) : Reply :=
  match m.current? with
  | some (s, c) => m.refuse (.stillOpen kind name s.kind c.name)
  | none =>
    match m.slot? name with
    | some s => m.refuse (.nameTaken s.kind name)
    | none =>
      let s : Slot := ⟨kind, (m.arena kind).size⟩
      let opened : Machine := { m with names := (name, s) :: m.names, active := some s }
      { machine := match kind with
          | .block => { opened with blocks := m.blocks.push { name := name } }
          | .macroDef => { opened with macros := m.macros.push { name := name } }
        notes := [{ remark := .opened kind name }] }

/-- The warnings about the writes of a block that do not fit their words. -/
def rangeWarnings (block : String) (writes : List Write) : List Note :=
  writes.filterMap fun w => w.checkRange.map fun e => { remark := .outOfRange block e }

/-- Closes the open container.  The machine is idle before a block is handed over, so it stays idle
whatever happens to the block. -/
def close (passes : Passes) (m : Machine) : Reply :=
  match m.current? with
  | none => m.refuse .nothingToEnd
  | some (s, c) =>
    if c.drafts.isEmpty then m.refuse (.emptyContainer s.kind c.name)
    else match c.unready? with
      | some last => m.refuse (.unreadyAtEnd s.kind c.name last)
      | none =>
        let idle := { m with active := none }
        let ended : Note := { remark := .closed s.kind c.name }
        match s.kind with
        | .macroDef => { machine := idle, notes := [ended] }
        | .block =>
          match c.complete with
          | .error r => { machine := idle, error := some (.incomplete c.name r), notes := [ended] }
          | .ok writes =>
            let (block, remarks) := Block.optimize passes { name := c.name, writes := writes }
            { machine := idle
              notes := ended :: rangeWarnings c.name writes
                ++ remarks.map fun r => { scope := [c.name], remark := r }
              handed := some block }

/-! ## Filling -/

/-- Opens a register.  The one before it has to be ready. -/
def select (m : Machine) (address : UInt8) : Reply :=
  match m.current? with
  | none => m.refuse (.selectOutside address)
  | some (s, c) =>
    match c.unready? with
    | some last => m.refuse (.selectAfterUnready address last)
    | none =>
      match Register.ofAddress? address with
      | none => m.refuse (.unsupported address)
      | some r => { machine := m.setDrafts s (.empty r :: c.drafts) }

/-- Pushes an operand into the open register. -/
def push (m : Machine) (v : Operand) : Reply :=
  match m.current? with
  | none => m.refuse (.pushOutside v)
  | some (s, c) =>
    match c.drafts with
    | [] => m.refuse (.pushBeforeRegister v)
    | last :: earlier =>
      match last.push v with
      | .error cause => m.refuse (.rejected cause)
      | .ok filled => { machine := m.setDrafts s (filled :: earlier) }

/-- Applies a modifier to the open register. -/
def modify (m : Machine) (modifier : Modifier) : Reply :=
  match m.current? with
  | none => m.refuse (.modifyOutside modifier)
  | some (s, c) =>
    match c.drafts with
    | [] => m.refuse (.modifyBeforeRegister modifier)
    | last :: earlier =>
      match last.apply modifier with
      | .error cause => m.refuse (.rejected cause)
      | .ok filled => { machine := m.setDrafts s (filled :: earlier) }

/-- The drafts of a macro as an insertion contributes them. -/
def insertedDrafts (offset : Option Vec2) (drafts : List Draft) : List Draft :=
  match offset with
  | none => drafts
  | some off => drafts.map (Draft.shift off)

/-- Inserts a macro.  The register before it has to be ready, and the macro has to be closed. -/
def insert (m : Machine) (name : String) (offset : Option Vec2) : Reply :=
  match m.current? with
  | none => m.refuse (.insertOutside name)
  | some (s, c) =>
    match c.unready? with
    | some last => m.refuse (.insertAfterUnready name last)
    | none =>
      match m.slot? name with
      | some ⟨.macroDef, i⟩ =>
        if m.active = some ⟨.macroDef, i⟩ then m.refuse (.recursiveMacro name)
        else match m.macros[i]? with
          | none => m.refuse (.unknownMacro name)
          | some inserted =>
            { machine := m.setDrafts s (insertedDrafts offset inserted.drafts ++ c.drafts) }
      | _ => m.refuse (.unknownMacro name)

/-- Carries out one event. -/
def step (passes : Passes) (m : Machine) : Event → Reply
  | .startBlock name => m.start .block name
  | .startMacro name => m.start .macroDef name
  | .close => m.close passes
  | .select address => m.select address
  | .push operand => m.push operand
  | .modify modifier => m.modify modifier
  | .insert name offset => m.insert name offset

end Machine

end RegisterScript
