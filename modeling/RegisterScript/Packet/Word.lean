import RegisterScript.Packet.Layout
import RegisterScript.Text.Utf8
import RegisterScript.Write

/-!
# Writes as words

Each register has a layout, and a write becomes the 64-bit word with its fields in that layout.
Fields wider than their slot lose their high bits, so a write survives the way through the word
only if every field fits; `Write.checkRange` finds out by taking that way.

Coordinates are whole pixels: the four fraction bits below each of them are a gap.

* `Register.layout` and `Write.fields`, the two halves of an encoding.
* `Write.encode` and `Register.decode`.
* `Write.checkRange`, with `RangeError` for a write that comes back changed or not at all.
-/

namespace RegisterScript

open Layout (Slot)

/-- The fields of a register's word, from the lowest bit up. -/
def Register.layout : Register → List Slot
  | prim => [.field 3, .field 1, .field 1, .field 1, .gap 1, .field 1]
  | rgbaq => [.field 8, .field 8, .field 8, .field 8]
  | uv => [.gap 4, .field 10, .gap 6, .field 10]
  | xyz2 => [.gap 4, .field 12, .gap 4, .field 12, .field 32]
  | tex0 => [.field 14, .field 6, .field 6, .field 4, .field 4, .field 1, .field 2]
  | fog => [.gap 56, .field 8]
  | fogcol => [.field 8, .field 8, .field 8]
  | scissor => [.field 11, .gap 5, .field 11, .gap 5, .field 11, .gap 5, .field 11]
  | signal => [.field 32, .field 32]
  | finish => [.field 32]
  | label => [.field 32, .field 32]

/-- The field values of a primitive setting. -/
def Prim.fields (p : Prim) : List Nat :=
  [p.topology.code.toNat, Layout.bit p.gouraud, Layout.bit p.texture, Layout.bit p.fogging,
    Layout.bit p.antialiasing]

/-- The field values of a texture setting. -/
def Tex0.fields (t : Tex0) : List Nat :=
  [t.base.toNat, t.bufferWidth.toNat, t.pixelFormat.code.toNat, t.widthLog.toNat,
    t.heightLog.toNat, Layout.bit t.useAlpha, t.function.code.toNat]

/-- The field values of a write, in the order of its register's layout. -/
def Write.fields : Write → List Nat
  | prim p => p.fields
  | tex0 t => t.fields
  | w => w.cells.map UInt32.toNat

/-- The data word of a write. -/
def Write.encode (w : Write) : UInt64 :=
  UInt64.ofNat (Layout.pack w.register.layout w.fields)

/-! ## Reading a word -/

/-- Why a word is not a write. -/
inductive DecodeError where
  /-- The topology is the one code of three bits that no topology has. -/
  | invalidTopology
  /-- The pixel format is none of the supported ones. -/
  | pixelFormat (code : Nat)
  /-- No register has the address. -/
  | unknownAddress (address : UInt8)
  deriving DecidableEq, Repr

/-- The wording of a refused word. -/
def DecodeError.message : DecodeError → String
  | invalidTopology => "invalid PRIM type 7"
  | pixelFormat code => "TEX0: unsupported pixel storage mode " ++ Text.decimal code
  | unknownAddress address => "unknown register address 0x" ++ Text.hexPadded 2 address.toNat

/-- The primitive setting in a word. -/
def Prim.decode (word : Nat) : Except DecodeError Prim :=
  let field := fun i => (Layout.unpack Register.prim.layout word).getD i 0
  if field 0 = 7 then .error .invalidTopology
  else .ok ⟨⟨UInt8.ofNat (field 0)⟩, field 1 = 1, field 2 = 1, field 3 = 1, field 4 = 1⟩

/-- The write to register `r` with the data word `word`. -/
def Register.decode (r : Register) (word : UInt64) : Except DecodeError Write :=
  let field := fun i => (Layout.unpack r.layout word.toNat).getD i 0
  let cell := fun i => UInt32.ofNat (field i)
  match r with
  | prim => (Prim.decode word.toNat).map .prim
  | rgbaq => .ok (.rgbaq ⟨cell 0, cell 1, cell 2, cell 3⟩)
  | uv => .ok (.uv ⟨cell 0, cell 1⟩)
  | xyz2 => .ok (.xyz2 ⟨cell 0, cell 1, cell 2⟩)
  | tex0 =>
    if field 2 ≤ PixelFormat.ct16.code.toNat then
      .ok (.tex0 {
        base := cell 0
        bufferWidth := cell 1
        pixelFormat := ⟨UInt8.ofNat (field 2)⟩
        widthLog := cell 3
        heightLog := cell 4
        useAlpha := field 5 = 1
        function := ⟨UInt8.ofNat (field 6)⟩ })
    else .error (.pixelFormat (field 2))
  | fog => .ok (.fog (UInt8.ofNat (field 0)))
  | fogcol => .ok (.fogcol ⟨cell 0, cell 1, cell 2⟩)
  | scissor => .ok (.scissor ⟨cell 0, cell 1, cell 2, cell 3⟩)
  | signal => .ok (.signal (cell 0) (cell 1))
  | finish => .ok (.finish (cell 0))
  | label => .ok (.label (cell 0) (cell 1))

/-- The write to the register at `address` with the data word `word`. -/
def decodeAt (address : UInt8) (word : UInt64) : Except DecodeError Write :=
  match Register.ofAddress? address with
  | some r => r.decode word
  | none => .error (.unknownAddress address)

/-! ## Range check -/

/-- How a write fails to survive its own word. -/
inductive RangeError where
  /-- The word is no write at all. -/
  | undecodable (cause : DecodeError)
  /-- The word is a different write. -/
  | changed (written readBack : Write)
  deriving DecidableEq, Repr

/-- The wording of a failed range check. -/
def RangeError.message : RangeError → String
  | undecodable cause => cause.message
  | changed written readBack =>
    written.describe ++ " encodes as " ++ readBack.describe
      ++ ": value does not fit its register field"

/-- What is wrong with the word of a write, if anything. -/
def Write.checkRange (w : Write) : Option RangeError :=
  match w.register.decode w.encode with
  | .error cause => some (.undecodable cause)
  | .ok readBack => if readBack = w then none else some (.changed w readBack)

/-! ## Words as bytes -/

/-- The lowest `count` bytes of `n`, lowest first. -/
def littleEndian : Nat → Nat → Bytes
  | 0, _ => []
  | count + 1, n => UInt8.ofNat n :: littleEndian count (n / 256)

/-- The eight bytes of a word, lowest first. -/
def wordBytes (word : UInt64) : Bytes := littleEndian 8 word.toNat

/-- The bytes of a word list. -/
def wordsToBytes (words : List UInt64) : Bytes := words.flatMap wordBytes

/-- The number with the given bytes, lowest first. -/
def ofLittleEndian : Bytes → Nat
  | [] => 0
  | b :: rest => b.toNat + 256 * ofLittleEndian rest

/-- Reads the words of `bytes` behind the words `read` (newest first); a last group of fewer than
eight bytes is left out. -/
def wordsFrom (read : List UInt64) : Bytes → List UInt64
  | b₀ :: b₁ :: b₂ :: b₃ :: b₄ :: b₅ :: b₆ :: b₇ :: rest =>
    wordsFrom (UInt64.ofNat (ofLittleEndian [b₀, b₁, b₂, b₃, b₄, b₅, b₆, b₇]) :: read) rest
  | _ => read.reverse

end RegisterScript
