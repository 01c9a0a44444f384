import RegisterScript.Text.Basic

/-!
# Topologies, formats, functions and the modifiers that select them

Three settings of the drawing hardware are small codes: the topology of a primitive, the storage
format of a texture's pixels, and the function that applies a texture.  A code of eight bits may
lie outside the named ones; it is carried along and printed as a number.

A modifier is the word by which a script selects such a setting or switches on a flag of a
primitive.  Modifiers are numbered in one row — topologies, flags, formats, functions — and the
modifier for a code is found by counting on from the first of its group.  Counting past the end
of a group lands in the next one, and past the last modifier on a number without a meaning;
`Modifier.meaning?` says what each number stands for.
-/

namespace RegisterScript

/-- What vertices are joined into. -/
structure Topology where
  code : UInt8
  deriving DecidableEq, Repr, Inhabited

/-- How a texture's pixels are stored. -/
structure PixelFormat where
  code : UInt8
  deriving DecidableEq, Repr, Inhabited

/-- How a texture is combined with the colour beneath it. -/
structure TextureFunction where
  code : UInt8
  deriving DecidableEq, Repr, Inhabited

namespace Topology

/-- The names, in the order of their codes. -/
def names : List String :=
  ["point", "line", "linestrip", "triangle", "trianglestrip", "trianglefan", "sprite"]

/-- The topology of a rectangle spanned by two vertices, the last that has a name. -/
def sprite : Topology := ⟨6⟩

/-- The name, or the bare code if it has none. -/
def name (t : Topology) : String :=
  (names[t.code.toNat]?).getD ("primtype(" ++ Text.decimal t.code.toNat ++ ")")

end Topology

namespace PixelFormat

/-- The names, in the order of their codes. -/
def names : List String := ["CT32", "CT24", "CT16"]

/-- Sixteen bits for each pixel, the last format that has a name. -/
def ct16 : PixelFormat := ⟨2⟩

/-- The name, or the bare code if it has none. -/
def name (p : PixelFormat) : String :=
  (names[p.code.toNat]?).getD ("psm(" ++ Text.decimal p.code.toNat ++ ")")

end PixelFormat

namespace TextureFunction

/-- The names, in the order of their codes. -/
def names : List String := ["modulate", "decal", "highlight", "highlight2"]

/-- The texture replaces the colour beneath it; what a texture does unless told otherwise. -/
def decal : TextureFunction := ⟨1⟩

/-- The last texture function, and so the last that has a name. -/
def highlight2 : TextureFunction := ⟨3⟩

/-- The name, or the bare code if it has none. -/
def name (t : TextureFunction) : String :=
  (names[t.code.toNat]?).getD ("tfx(" ++ Text.decimal t.code.toNat ++ ")")

end TextureFunction

/-! ## Modifiers -/

/-- A modifier, by its number in the row of all modifiers; the named ones count from one. -/
structure Modifier where
  code : Int
  deriving DecidableEq, Repr, Inhabited

/-- What a modifier asks for. -/
inductive Modifier.Meaning where
  | topology (t : Topology)
  | gouraud
  | fogging
  | antialiasing
  | texture
  | pixelFormat (p : PixelFormat)
  | textureFunction (t : TextureFunction)
  deriving DecidableEq, Repr

namespace Modifier

/-- The modifier that selects a topology. -/
def ofTopology (t : Topology) : Modifier := ⟨1 + t.code.toNat⟩

/-- Smooth shading. -/
def gouraud : Modifier := ⟨8⟩

/-- Fogging. -/
def fogging : Modifier := ⟨9⟩

/-- Antialiasing of the first pass. -/
def antialiasing : Modifier := ⟨10⟩

/-- Texture mapping. -/
def texture : Modifier := ⟨11⟩

/-- The modifier that selects a pixel format. -/
def ofPixelFormat (p : PixelFormat) : Modifier := ⟨12 + p.code.toNat⟩

/-- The modifier that selects a texture function. -/
def ofTextureFunction (t : TextureFunction) : Modifier := ⟨15 + t.code.toNat⟩

/-- The names of the modifiers 1, 2, 3, … in order. -/
def names : List String :=
  Topology.names ++ ["gouraud", "fogging", "aa1", "texture"] ++ PixelFormat.names
    ++ TextureFunction.names

/-- The named modifiers with their names. -/
def table : List (Modifier × String) :=
  names.zipIdx.map fun (name, index) => (⟨index + 1⟩, name)

/-- The meaning of a modifier, if its number has one. -/
def meaning? (m : Modifier) : Option Meaning :=
  match m.code with
  | .ofNat 8 => some .gouraud
  | .ofNat 9 => some .fogging
  | .ofNat 10 => some .antialiasing
  | .ofNat 11 => some .texture
  | .ofNat n =>
    if 1 ≤ n ∧ n ≤ 7 then some (.topology ⟨UInt8.ofNat (n - 1)⟩)
    else if 12 ≤ n ∧ n ≤ 14 then some (.pixelFormat ⟨UInt8.ofNat (n - 12)⟩)
    else if 15 ≤ n ∧ n ≤ 18 then some (.textureFunction ⟨UInt8.ofNat (n - 15)⟩)
    else none
  | .negSucc _ => none

/-- The name, or the bare number if it has none. -/
def name (m : Modifier) : String :=
  match table.find? fun entry => entry.1 == m with
  | some entry => entry.2
  | none => "modifier(" ++ Text.signedDecimal m.code ++ ")"

/-- The modifier with a name, in any letter case; texture mapping has a second name. -/
def ofName? (text : String) : Option Modifier :=
  if Text.sameName "textured" text then some texture
  else (table.find? fun entry => Text.sameName entry.2 text).map (·.1)

end Modifier

end RegisterScript
