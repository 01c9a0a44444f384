import RegisterScript.Backend.Target
import RegisterScript.Packet.Tag

/-!
# Blocks as arrays of C

A block becomes an array with the words of its packet, and a variable with the array's size in
bytes.  The words are written as bare numbers or by the macros and constants of the vendor's
headers; both describe the same packet.
-/

namespace RegisterScript.CArray

/-- The lines before the first array. -/
def prologue : String := "#include <tamtypes.h>\n#include <gs_gp.h>\n#include <gif_tags.h>\n"

/-! ## Names of the headers -/

/-- The constant of a topology; nothing for a code without a name. -/
def topologyName (t : Topology) : String :=
  (["GS_PRIM_POINT", "GS_PRIM_LINE", "GS_PRIM_LINE_STRIP", "GS_PRIM_TRIANGLE",
    "GS_PRIM_TRIANGLE_STRIP", "GS_PRIM_TRIANGLE_FAN", "GS_PRIM_SPRITE"][t.code.toNat]?).getD ""

/-- The constant of a pixel format; nothing for a code without a name. -/
def pixelFormatName (p : PixelFormat) : String :=
  (["GS_PSM_32", "GS_PSM_24", "GS_PSM_16"][p.code.toNat]?).getD ""

/-- The constant of a texture function; nothing for a code without a name. -/
def textureFunctionName (t : TextureFunction) : String :=
  (["GS_TFX_MODULATE", "GS_TFX_DECAL", "GS_TFX_HIGHLIGHT",
    "GS_TFX_HIGHLIGHT2"][t.code.toNat]?).getD ""

/-- The constant of a register's address. -/
def registerName : Register → String
  | .prim => "GS_REG_PRIM"
  | .rgbaq => "GS_REG_RGBAQ"
  | .uv => "GS_REG_UV"
  | .xyz2 => "GS_REG_XYZ2"
  | .tex0 => "GS_REG_TEX0_1"
  | .fog => "GS_REG_FOG"
  | .fogcol => "GS_REG_FOGCOL"
  | .scissor => "GS_REG_SCISSOR_1"
  | .signal => "GS_REG_SIGNAL"
  | .finish => "GS_REG_FINISH"
  | .label => "GS_REG_LABEL"

/-- The constant of a flag. -/
def flagName (flag : Bool) : String := if flag then "GS_ENABLE" else "GS_DISABLE"

/-! ## Words by name -/

/-- A macro with its arguments. -/
def call (name : String) (arguments : List String) : String :=
  name ++ "(" ++ ",".intercalate arguments ++ ")"

/-- A cell in decimal. -/
def plain (c : Cell) : String := Text.decimal c.toNat

/-- A coordinate in decimal, with the shift that makes room for its fraction. -/
def shifted (c : Cell) : String := plain c ++ "<<4"

/-- A colour channel in hexadecimal, at least two digits. -/
def channel (c : Cell) : String := "0x" ++ Text.hexPadded 2 c.toNat

/-- The macro for a primitive setting. -/
def setPrim (p : Prim) : String :=
  call "GS_SET_PRIM"
    [topologyName p.topology, flagName p.gouraud, flagName p.texture, flagName p.fogging, "0",
      flagName p.antialiasing, "0", "0", "0"]

/-- The macro for the data word of a write. -/
def setWrite : Write → String
  | .prim p => setPrim p
  | .rgbaq c => call "GS_SET_RGBAQ" [channel c.x, channel c.y, channel c.z, channel c.w, "0x00"]
  | .uv c => call "GS_SET_UV" [shifted c.x, shifted c.y]
  | .xyz2 p => call "GS_SET_XYZ" [shifted p.x, shifted p.y, plain p.z]
  | .tex0 t =>
    call "GS_SET_TEX0"
      [renderCell t.base, plain t.bufferWidth, pixelFormatName t.pixelFormat, plain t.widthLog,
        plain t.heightLog, if t.useAlpha then "1" else "0", textureFunctionName t.function,
        "0", "0", "0", "0", "0"]
  | .fog v => call "GS_SET_FOG" ["0x" ++ Text.hexPadded 2 v.toNat]
  | .fogcol c => call "GS_SET_FOGCOL" [channel c.x, channel c.y, channel c.z]
  | .scissor r => call "GS_SET_SCISSOR" [plain r.x, plain r.y, plain r.z, plain r.w]
  | .signal i m => call "GS_SET_SIGNAL" [renderCell i, renderCell m]
  | .finish v => call "GS_SET_FINISH" [renderCell v]
  | .label i m => call "GS_SET_LABEL" [renderCell i, renderCell m]

/-! ## Arrays -/

/-- A whole word in hexadecimal. -/
def wordLiteral (w : UInt64) : String := "0x" ++ Text.hexPadded 16 w.toNat

/-- The two words of a tag. -/
def tagText (mode : EmitMode) (b : Block) (t : Tag) : String :=
  match mode with
  | .magic => wordLiteral t.pack.1 ++ "," ++ wordLiteral t.pack.2
  | .defs =>
    let prim := match b.tagPrim with
      | some p => ["1", setPrim p]
      | none => ["0", "0"]
    call "GIF_SET_TAG" (Text.decimal b.writes.length :: "1" :: (prim ++ ["0", "1"]))
      ++ ",GIF_REG_AD"

/-- The two words of a write. -/
def entryText (mode : EmitMode) (w : Write) : String :=
  match mode with
  | .magic => wordLiteral w.encode ++ ",0x" ++ Text.hexPadded 2 w.register.address.toNat
  | .defs => setWrite w ++ "," ++ registerName w.register

/-- The array of a block with the given tag. -/
def arrayText (mode : EmitMode) (b : Block) (t : Tag) : String :=
  "u64 " ++ b.name ++ "_data_size = " ++ Text.decimal ((b.writes.length + 1) * 16) ++ ";\n"
    ++ "u64 " ++ b.name ++ "_data[] __attribute__((aligned(16))) = \x7b\n"
    ++ String.join
      ((tagText mode b t :: b.writes.map (entryText mode)).map fun line => "\t" ++ line ++ ",\n")
    ++ "\x7d;\n"

/-- The text of a block, if its packet can have a tag. -/
def render (mode : EmitMode) (b : Block) : Except TooManyWrites String :=
  b.tag.map (arrayText mode b)

end RegisterScript.CArray
