import RegisterScript.Write

/-!
# Registers being filled

A draft is a register on its way to becoming a write.  Operands and modifiers fill it step by
step; a field that has not been filled is absent, so nothing can read it too early.  A draft is
ready once it completes to a write, and it can be filled further after that.

* `Draft.empty r`, where a statement starts.
* `Draft.push` and `Draft.apply`, one operand or one modifier; both refuse what the register does
  not take, with a `Rejection`.
* `Draft.complete?` and `Draft.ready`.
* `Draft.shift`, which moves a vertex and leaves every other register alone.
-/

namespace RegisterScript

/-- A primitive setting on its way; only the topology has to be chosen. -/
structure PrimDraft where
  topology : Option Topology := none
  gouraud : Bool := false
  texture : Bool := false
  fogging : Bool := false
  antialiasing : Bool := false
  deriving DecidableEq, Repr

/-- A texture setting on its way. -/
structure Tex0Draft where
  base : Option Cell := none
  bufferWidth : Option Cell := none
  widthLog : Option Cell := none
  heightLog : Option Cell := none
  pixelFormat : Option PixelFormat := none
  function : TextureFunction := .decal
  deriving DecidableEq, Repr

/-- A register on its way to becoming a write. -/
inductive Draft where
  | prim (p : PrimDraft)
  | rgbaq (color : Option Vec4)
  | uv (coord : Option Vec2)
  | xyz2 (position : Option Vec3)
  | tex0 (t : Tex0Draft)
  | fog (value : Option UInt8)
  | fogcol (color : Option Vec3)
  | scissor (rect : Option Vec4)
  /-- An identifier with its mask. -/
  | signal (value : Option Vec2)
  | finish (value : Cell)
  /-- An identifier with its mask. -/
  | label (value : Option Vec2)
  deriving DecidableEq, Repr

/-- A push or a modifier that a register does not take. -/
inductive Rejection where
  | operand (register : Register) (operand : Operand)
  | modifier (register : Register) (modifier : Modifier)
  deriving DecidableEq, Repr

/-- The wording of a rejection. -/
def Rejection.message : Rejection → String
  | operand register v =>
    register.name ++ " does not accept " ++ v.shape ++ ": operand rejected"
  | modifier register m =>
    register.name ++ " does not accept modifier " ++ m.name ++ ": operand rejected"

namespace Draft

/-- A register with nothing filled in. -/
def empty : Register → Draft
  | .prim => prim {}
  | .rgbaq => rgbaq none
  | .uv => uv none
  | .xyz2 => xyz2 none
  | .tex0 => tex0 {}
  | .fog => fog none
  | .fogcol => fogcol none
  | .scissor => scissor none
  | .signal => signal none
  | .finish => finish 0
  | .label => label none

/-- The register that a draft is for. -/
def register : Draft → Register
  | prim _ => .prim
  | rgbaq _ => .rgbaq
  | uv _ => .uv
  | xyz2 _ => .xyz2
  | tex0 _ => .tex0
  | fog _ => .fog
  | fogcol _ => .fogcol
  | scissor _ => .scissor
  | signal _ => .signal
  | finish _ => .finish
  | label _ => .label

end Draft

/-! ## Filling -/

/-- Puts a cell into the first place still open, in the order base, buffer width, width,
height. -/
def Tex0Draft.fill (t : Tex0Draft) (c : Cell) : Option Tex0Draft :=
  if t.base.isNone then some { t with base := some c }
  else if t.bufferWidth.isNone then some { t with bufferWidth := some c }
  else if t.widthLog.isNone then some { t with widthLog := some c }
  else if t.heightLog.isNone then some { t with heightLog := some c }
  else none

/-- Puts width and height in at once, as long as both are open. -/
def Tex0Draft.fillSize (t : Tex0Draft) (size : Vec2) : Option Tex0Draft :=
  if t.widthLog.isNone && t.heightLog.isNone then
    some { t with widthLog := some size.x, heightLog := some size.y }
  else none

/-- What a primitive setting makes of a modifier. -/
def PrimDraft.apply (p : PrimDraft) : Modifier.Meaning → Option PrimDraft
  | .topology t => some { p with topology := some t }
  | .gouraud => some { p with gouraud := true }
  | .fogging => some { p with fogging := true }
  | .antialiasing => some { p with antialiasing := true }
  | .texture => some { p with texture := true }
  | .pixelFormat _ | .textureFunction _ => none

/-- What a texture setting makes of a modifier. -/
def Tex0Draft.apply (t : Tex0Draft) : Modifier.Meaning → Option Tex0Draft
  | .pixelFormat p => some { t with pixelFormat := some p }
  | .textureFunction f => some { t with function := f }
  | _ => none

namespace Draft

/-- The draft after a push, if the register takes the operand.  A colour without alpha is opaque,
an identifier without a mask is unmasked, and fog keeps the low eight bits. -/
def pushed? : Draft → Operand → Option Draft
  | rgbaq _, .vec3 v => some (rgbaq (some ⟨v.x, v.y, v.z, 0xFF⟩))
  | rgbaq _, .vec4 v => some (rgbaq (some v))
  | uv _, .vec2 v => some (uv (some v))
  | xyz2 _, .vec3 v => some (xyz2 (some v))
  | tex0 t, .scalar c => (t.fill c).map tex0
  | tex0 t, .vec2 v => (t.fillSize v).map tex0
  | fog _, .scalar c => some (fog (some c.toUInt8))
  | fogcol _, .vec3 v => some (fogcol (some v))
  | scissor _, .vec4 v => some (scissor (some v))
  | signal _, .scalar c => some (signal (some ⟨c, 0xFFFFFFFF⟩))
  | signal _, .vec2 v => some (signal (some v))
  | finish _, .scalar c => some (finish c)
  | label _, .scalar c => some (label (some ⟨c, 0xFFFFFFFF⟩))
  | label _, .vec2 v => some (label (some v))
  | _, _ => none

/-- Pushes an operand. -/
def push (d : Draft) (v : Operand) : Except Rejection Draft :=
  match d.pushed? v with
  | some d => .ok d
  | none => .error (.operand d.register v)

/-- The draft after a modifier, if the register takes it. -/
def modified? (d : Draft) (m : Modifier) : Option Draft :=
  match d, m.meaning? with
  | prim p, some meaning => (p.apply meaning).map prim
  | tex0 t, some meaning => (t.apply meaning).map tex0
  | _, _ => none

/-- Applies a modifier. -/
def apply (d : Draft) (m : Modifier) : Except Rejection Draft :=
  match d.modified? m with
  | some d => .ok d
  | none => .error (.modifier d.register m)

/-- Moves a vertex; without a position yet, and for every other register, nothing happens. -/
def shift (offset : Vec2) : Draft → Draft
  | xyz2 (some p) => xyz2 (some ⟨p.x + offset.x, p.y + offset.y, p.z⟩)
  | d => d

end Draft

/-! ## Completing -/

/-- The primitive setting, once its topology is chosen. -/
def PrimDraft.complete? (p : PrimDraft) : Option Prim :=
  p.topology.map fun t => ⟨t, p.gouraud, p.texture, p.fogging, p.antialiasing⟩

/-- The texture setting, once its four cells and its pixel format are there. -/
def Tex0Draft.complete? (t : Tex0Draft) : Option Tex0 := do
  let base ← t.base
  let bufferWidth ← t.bufferWidth
  let widthLog ← t.widthLog
  let heightLog ← t.heightLog
  let pixelFormat ← t.pixelFormat
  return {
    base := base, bufferWidth := bufferWidth, pixelFormat := pixelFormat
    widthLog := widthLog, heightLog := heightLog, function := t.function }

namespace Draft

/-- The write that a draft has become, once nothing is missing. -/
def complete? : Draft → Option Write
  | prim p => p.complete?.map .prim
  | rgbaq c => c.map .rgbaq
  | uv c => c.map .uv
  | xyz2 p => p.map .xyz2
  | tex0 t => t.complete?.map .tex0
  | fog v => v.map .fog
  | fogcol c => c.map .fogcol
  | scissor r => r.map .scissor
  | signal v => v.map fun v => .signal v.x v.y
  | finish v => some (.finish v)
  | label v => v.map fun v => .label v.x v.y

/-- Whether nothing is missing. -/
def ready (d : Draft) : Bool := d.complete?.isSome

end Draft

end RegisterScript
