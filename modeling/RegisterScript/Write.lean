import RegisterScript.Modifier
import RegisterScript.Operand
import RegisterScript.Register

/-!
# Register writes

A write is one register with every field filled in.  Half-filled registers are a different type
(`Draft`), so whatever holds a `Write` can rely on all of its fields.

* `Prim` and `Tex0`, the two registers made of named fields, and `Write`, one constructor for each
  register.
* `Write.register`, the register that a write goes to.
* `Write.describe`, the form in which listings and warnings show a write.
* `Prim.modifiers`, the words that rebuild a primitive setting, topology first.
-/

namespace RegisterScript

/-- The setting of a primitive. -/
structure Prim where
  topology : Topology
  gouraud : Bool := false
  texture : Bool := false
  fogging : Bool := false
  antialiasing : Bool := false
  deriving DecidableEq, Repr, Inhabited

/-- The setting of a texture: where it lies, how large it is (as powers of two), how its pixels
are stored and how it is applied. -/
structure Tex0 where
  base : Cell
  bufferWidth : Cell
  pixelFormat : PixelFormat
  widthLog : Cell
  heightLog : Cell
  /-- Whether the texture's own alpha is used.  No script can ask for it; packets can. -/
  useAlpha : Bool := false
  function : TextureFunction
  deriving DecidableEq, Repr, Inhabited

/-- A register with all of its fields. -/
inductive Write where
  | prim (p : Prim)
  | rgbaq (color : Vec4)
  | uv (coord : Vec2)
  | xyz2 (position : Vec3)
  | tex0 (t : Tex0)
  | fog (value : UInt8)
  | fogcol (color : Vec3)
  /-- The rectangle as left, right, top, bottom. -/
  | scissor (rect : Vec4)
  | signal (id mask : Cell)
  | finish (value : Cell)
  | label (id mask : Cell)
  deriving DecidableEq, Repr

/-- The register that a write goes to. -/
def Write.register : Write → Register
  | prim _ => .prim
  | rgbaq _ => .rgbaq
  | uv _ => .uv
  | xyz2 _ => .xyz2
  | tex0 _ => .tex0
  | fog _ => .fog
  | fogcol _ => .fogcol
  | scissor _ => .scissor
  | signal _ _ => .signal
  | finish _ => .finish
  | label _ _ => .label

/-- The modifiers that rebuild a primitive setting, topology first. -/
def Prim.modifiers (p : Prim) : List Modifier :=
  Modifier.ofTopology p.topology
    :: ((if p.gouraud then [Modifier.gouraud] else [])
      ++ (if p.texture then [Modifier.texture] else [])
      ++ (if p.fogging then [Modifier.fogging] else [])
      ++ (if p.antialiasing then [Modifier.antialiasing] else []))

/-! ## Listings -/

/-- A primitive setting in a listing. -/
def Prim.describe (p : Prim) : String :=
  "PRIM(" ++ p.topology.name
    ++ (if p.gouraud then " gouraud" else "")
    ++ (if p.texture then " texture" else "")
    ++ (if p.fogging then " fogging" else "")
    ++ (if p.antialiasing then " aa1" else "")
    ++ ")"

/-- A texture setting in a listing; whether it uses its own alpha is not shown. -/
def Tex0.describe (t : Tex0) : String :=
  "TEX0(tbp=" ++ renderCell t.base ++ " tbw=" ++ renderCell t.bufferWidth
    ++ " tw=" ++ renderCell t.widthLog ++ " th=" ++ renderCell t.heightLog
    ++ " " ++ t.pixelFormat.name ++ " " ++ t.function.name ++ ")"

/-- The cells of a write that has no named fields. -/
def Write.cells : Write → List Cell
  | prim _ => []
  | tex0 _ => []
  | rgbaq c => [c.x, c.y, c.z, c.w]
  | uv c => [c.x, c.y]
  | xyz2 p => [p.x, p.y, p.z]
  | fog v => [v.toUInt32]
  | fogcol c => [c.x, c.y, c.z]
  | scissor r => [r.x, r.y, r.z, r.w]
  | signal i m => [i, m]
  | finish v => [v]
  | label i m => [i, m]

/-- A write in a listing. -/
def Write.describe : Write → String
  | prim p => p.describe
  | tex0 t => t.describe
  | w => w.register.name ++ "(" ++ renderCells w.cells ++ ")"

end RegisterScript
