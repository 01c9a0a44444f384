import RegisterScript.Trace

/-!
# Packets as events

A packet stream is turned back into the events that build it: one block for each packet, named by
the position of its tag, with the tag's primitive setting as its first statement.  The whole stream
is read before the first event, so a stream that is not one yields no event at all.

* `Write.fillEvents`, the events that rebuild a write.
* `replay`, the trace of one block.
* `disassemble`, the trace of a stream.
* `Write.tell`, `tellBlock` and `tellStream`, which tell the same to a sink event by event, with no
  trace in between, and stop when they are refused.
-/

namespace RegisterScript

/-- The events that fill a selected register so that it completes to the write.  Whether a texture
uses its own alpha has no event. -/
def Write.fillEvents : Write → List Event
  | prim p => p.modifiers.map .modify
  | rgbaq color => [.push (.vec4 color)]
  | uv coord => [.push (.vec2 coord)]
  | xyz2 position => [.push (.vec3 position)]
  | tex0 t =>
    [.push (.scalar t.base), .push (.scalar t.bufferWidth),
      .push (.vec2 ⟨t.widthLog, t.heightLog⟩),
      .modify (.ofPixelFormat t.pixelFormat), .modify (.ofTextureFunction t.function)]
  | fog value => [.push (.scalar value.toUInt32)]
  | fogcol color => [.push (.vec3 color)]
  | scissor rect => [.push (.vec4 rect)]
  | signal id mask => [.push (.vec2 ⟨id, mask⟩)]
  | finish value => [.push (.scalar value)]
  | label id mask => [.push (.vec2 ⟨id, mask⟩)]

/-- The events that rebuild a write. -/
def Write.events (w : Write) : List Event := .select w.register.address :: w.fillEvents

/-- The items of a block: its opening, the tag's setting if there is one, its writes, and its
closing. -/
def replay (name : String) (prim : Option Prim) (writes : List Write) : List TraceItem :=
  .event .bare (.startBlock name)
    :: ((prim.toList.flatMap fun p => (Write.prim p).events.map (.event (.tagPrim name)))
      ++ (writes.zipIdx.flatMap fun (w, i) => w.events.map (.event (.write name i)))
      ++ [.event .bare .close])

/-- The name of the block for the tag at a byte offset. -/
def blockName (offset : Nat) : String := "block_" ++ Text.hex offset

/-- The items of a packet. -/
def Packet.items (p : Packet) : List TraceItem :=
  .remark (.tagFound p.offset p.tag.nloop.toNat p.tag.pre)
    :: replay (blockName p.offset) p.prim p.writes

/-- The trace of a packet stream.  A stream that could not be delivered in full is not looked at. -/
def disassemble (bytes : Bytes) (ending : Ending) : Trace :=
  match ending with
  | .broken cause => { items := [], fault := some (.device cause) }
  | .complete =>
    match readStream bytes with
    | .error e => { items := [], fault := some (.packet e) }
    | .ok packets => { items := packets.flatMap Packet.items }

/-! ## Telling -/

section Telling

variable {σ : Type} (sink : Sink σ)

/-- Tells modifiers, one after the other. -/
def tellModifiers (x : σ) : List Modifier → σ × Option Fault
  | [] => (x, none)
  | m :: modifiers =>
    match sink.accept x (.modify m) with
    | (x, some f) => (x, some f)
    | (x, none) => tellModifiers x modifiers

/-- Tells a texture setting: four cells in three operands, then the two modifiers. -/
def Tex0.tell (t : Tex0) (x : σ) : σ × Option Fault :=
  match sink.accept x (.push (.scalar t.base)) with
  | (x, some f) => (x, some f)
  | (x, none) =>
    match sink.accept x (.push (.scalar t.bufferWidth)) with
    | (x, some f) => (x, some f)
    | (x, none) =>
      match sink.accept x (.push (.vec2 ⟨t.widthLog, t.heightLog⟩)) with
      | (x, some f) => (x, some f)
      | (x, none) =>
        tellModifiers sink x [.ofPixelFormat t.pixelFormat, .ofTextureFunction t.function]

/-- Tells a write. -/
def Write.tell (w : Write) (x : σ) : σ × Option Fault :=
  match sink.accept x (.select w.register.address) with
  | (x, some f) => (x, some f)
  | (x, none) =>
    match w with
    | prim p => tellModifiers sink x p.modifiers
    | rgbaq color => sink.accept x (.push (.vec4 color))
    | uv coord => sink.accept x (.push (.vec2 coord))
    | xyz2 position => sink.accept x (.push (.vec3 position))
    | tex0 t => t.tell sink x
    | fog value => sink.accept x (.push (.scalar value.toUInt32))
    | fogcol color => sink.accept x (.push (.vec3 color))
    | scissor rect => sink.accept x (.push (.vec4 rect))
    | signal id mask => sink.accept x (.push (.vec2 ⟨id, mask⟩))
    | finish value => sink.accept x (.push (.scalar value))
    | label id mask => sink.accept x (.push (.vec2 ⟨id, mask⟩))

/-- Tells the writes of a block from the one with number `index` on. -/
def tellWrites (name : String) (x : σ) (index : Nat) : List Write → σ × Option Fault
  | [] => (x, none)
  | w :: writes =>
    match w.tell sink x with
    | (x, some f) => (x, some (.inWrite name index f))
    | (x, none) => tellWrites name x (index + 1) writes

/-- Tells the primitive setting in the tag of a block, if there is one. -/
def tellTagPrim (name : String) (x : σ) : Option Prim → σ × Option Fault
  | none => (x, none)
  | some p =>
    match (Write.prim p).tell sink x with
    | (x, some f) => (x, some (.inTagPrim name f))
    | (x, none) => (x, none)

/-- Tells a block. -/
def tellBlock (name : String) (prim : Option Prim) (writes : List Write) (x : σ) :
    σ × Option Fault :=
  match sink.accept x (.startBlock name) with
  | (x, some f) => (x, some f)
  | (x, none) =>
    match tellTagPrim sink name x prim with
    | (x, some f) => (x, some f)
    | (x, none) =>
      match tellWrites sink name x 0 writes with
      | (x, some f) => (x, some f)
      | (x, none) => sink.accept x .close

/-- Tells packets, each as a block. -/
def tellPackets (x : σ) : List Packet → σ × Option Fault
  | [] => (x, none)
  | p :: packets =>
    let x := sink.report x (.tagFound p.offset p.tag.nloop.toNat p.tag.pre)
    match tellBlock sink (blockName p.offset) p.prim p.writes x with
    | (x, some f) => (x, some f)
    | (x, none) => tellPackets x packets

/-- Tells a packet stream, once all of it has been read. -/
def tellStream (bytes : Bytes) (ending : Ending) (x : σ) : σ × Option Fault :=
  match ending with
  | .broken cause => (x, some (.device cause))
  | .complete =>
    match readStream bytes with
    | .error e => (x, some (.packet e))
    | .ok packets => tellPackets sink x packets

end Telling

end RegisterScript
