import RegisterScript.Text.Basic

/-!
# Registers

The eleven drawing registers that a script can write.  Each has an address of eight bits, a name,
and two properties that matter to the rest of the library: whether it can only be reached through
address-and-data pairs, and whether every single write to it can be observed.

Addresses travel on their own, since a packet or a caller may name one that belongs to no
register; `Register.ofAddress?` says which do, and `addressName` prints either kind.
-/

namespace RegisterScript

/-- A register that a script can write. -/
inductive Register where
  | prim
  | rgbaq
  | uv
  | xyz2
  | tex0
  | fog
  | fogcol
  | scissor
  | signal
  | finish
  | label
  deriving DecidableEq, Repr

namespace Register

/-- All registers, by increasing address. -/
def all : List Register :=
  [prim, rgbaq, uv, xyz2, tex0, fog, fogcol, scissor, signal, finish, label]

/-- The address of a register. -/
def address : Register → UInt8
  | prim => 0x00
  | rgbaq => 0x01
  | uv => 0x03
  | xyz2 => 0x05
  | tex0 => 0x06
  | fog => 0x0A
  | fogcol => 0x3D
  | scissor => 0x40
  | signal => 0x60
  | finish => 0x61
  | label => 0x62

/-- The name of a register. -/
def name : Register → String
  | prim => "PRIM"
  | rgbaq => "RGBAQ"
  | uv => "UV"
  | xyz2 => "XYZ2"
  | tex0 => "TEX0"
  | fog => "FOG"
  | fogcol => "FOGCOL"
  | scissor => "SCISSOR"
  | signal => "SIGNAL"
  | finish => "FINISH"
  | label => "LABEL"

/-- Whether the register can be written through address-and-data pairs only. -/
def requiresAddress : Register → Bool
  | scissor | signal | finish | label => true
  | _ => false

/-- Whether every write to the register can be observed on its own: a vertex is kicked, or the
host is told something.  Such a write is never made useless by a later one. -/
def hasSideEffects : Register → Bool
  | xyz2 | signal | finish | label => true
  | _ => false

/-- The register at an address. -/
def ofAddress? (address : UInt8) : Option Register :=
  all.find? fun r => r.address == address

/-- The register with a name, in any letter case. -/
def ofName? (text : String) : Option Register :=
  all.find? fun r => Text.sameName r.name text

/-- The name as a script prints it. -/
def scriptName (r : Register) : String := String.ofList (r.name.toList.map Char.toLower)

end Register

/-- The name of the register at an address, or the bare address if there is none. -/
def addressName (address : UInt8) : String :=
  match Register.ofAddress? address with
  | some r => r.name
  | none => "REG(0x" ++ Text.hexPadded 2 address.toNat ++ ")"

end RegisterScript
