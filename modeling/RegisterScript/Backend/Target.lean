import RegisterScript.Fault

/-!
# Output formats

Blocks can be written as arrays of C, as a script, or as raw packets.  A target is the number of a
format as settings carry it; a number without a format is noticed only when writing starts.
-/

namespace RegisterScript

/-- How the words of an array are written. -/
inductive EmitMode where
  /-- By the names of the vendor's headers. -/
  | defs
  /-- As bare numbers. -/
  | magic
  deriving DecidableEq, Repr

namespace EmitMode

/-- The name of a style. -/
def name : EmitMode → String
  | defs => "defs"
  | magic => "magic"

/-- The style with a number; every number but one means the names. -/
def ofNumber (n : Int) : EmitMode := if n = 1 then magic else defs

/-- The number of a style. -/
def number : EmitMode → Nat
  | defs => 0
  | magic => 1

/-- The style with a name. -/
def ofName (text : String) : Except Fault EmitMode :=
  match text with
  | "defs" => .ok defs
  | "magic" => .ok magic
  | _ => .error (.unknownEmitMode text)

end EmitMode

/-- How blocks are written. -/
inductive Format where
  | cArray (mode : EmitMode)
  | script
  | packets
  deriving DecidableEq, Repr

/-- An output format by its number. -/
structure Target where
  code : Int
  deriving DecidableEq, Repr

namespace Target

/-- Arrays of C. -/
def cArray : Target := ⟨0⟩

/-- The names of the formats, in the order of their numbers. -/
def names : List String := ["c_code", "gifscript", "binary"]

/-- The format with a name. -/
def ofName (text : String) : Except Fault Target :=
  match names.findIdx? (· == text) with
  | some i => .ok ⟨i⟩
  | none => .error (.unknownBackend text)

/-- The name of a target, or the bare number if it has no format. -/
def name (t : Target) : String :=
  match t.code with
  | .ofNat n => (names[n]?).getD ("target(" ++ Text.decimal n ++ ")")
  | .negSucc _ => "target(" ++ Text.signedDecimal t.code ++ ")"

/-- The format of a target; the style matters to arrays only. -/
def format (t : Target) (mode : EmitMode) : Except Fault Format :=
  match t.code with
  | .ofNat 0 => .ok (.cArray mode)
  | .ofNat 1 => .ok .script
  | .ofNat 2 => .ok .packets
  | code => .error (.unknownTarget code)

end Target

end RegisterScript
