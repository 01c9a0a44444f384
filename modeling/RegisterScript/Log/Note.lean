import RegisterScript.Log.Level
import RegisterScript.Packet.Word
import RegisterScript.Block

/-!
# Notes

What the library has to report while it works is data: a remark says what happened, and a note is a
remark with the names of what was being worked on, outermost first.  Whether a note is shown, and
as what text, is decided by a logger afterwards, so no result can depend on it.
-/

namespace RegisterScript

/-- The two kinds of container that a script defines. -/
inductive ContainerKind where
  | block
  | macroDef
  deriving DecidableEq, Repr

/-- The word for a kind of container. -/
def ContainerKind.word : ContainerKind → String
  | block => "block"
  | macroDef => "macro"

/-- Something worth reporting. -/
inductive Remark where
  /-- A container was opened. -/
  | opened (kind : ContainerKind) (name : String)
  /-- A container was closed. -/
  | closed (kind : ContainerKind) (name : String)
  /-- A write of a block does not fit its word. -/
  | outOfRange (block : String) (cause : RangeError)
  /-- A write was dropped because the next one overwrites it. -/
  | deadStore (register : Register)
  /-- A primitive setting was moved into the tag. -/
  | packedPrim
  /-- A block is about to be written out. -/
  | emitting (block : String)
  /-- The listing of a block that is about to be written out. -/
  | listing (block : Block)
  /-- A tag was found in a stream. -/
  | tagFound (offset loops : Nat) (hasPrim : Bool)
  /-- A run starts with these settings. -/
  | settings (target passes : String)
  /-- A message with a level of its own. -/
  | message (level : Level) (text : String)
  deriving DecidableEq, Repr

namespace Remark

/-- How much a remark matters. -/
def level : Remark → Level
  | opened _ _ | closed _ _ | listing _ | tagFound _ _ _ | settings _ _ => .debug
  | deadStore _ | packedPrim | emitting _ => .info
  | outOfRange _ _ => .warn
  | message l _ => l

/-- The text of a remark. -/
def text : Remark → String
  | opened kind name => "start " ++ kind.word ++ " " ++ name
  | closed kind name => "end " ++ kind.word ++ " " ++ name
  | outOfRange block cause => "block " ++ block ++ ": " ++ cause.message
  | deadStore register => "dead store elimination: " ++ register.name
  | packedPrim => "packing PRIM into GIF tag"
  | emitting block => "emitting block " ++ block
  | listing block => "\n".intercalate block.listingLines
  | tagFound offset loops hasPrim =>
    "tag at 0x" ++ Text.hex offset ++ ": nloop=" ++ Text.decimal loops
      ++ " pre=" ++ (if hasPrim then "true" else "false")
  | settings target passes => "backend " ++ target ++ ", optimizations " ++ passes
  | message _ text => text

end Remark

/-- A remark with the names of what was being worked on, outermost first. -/
structure Note where
  scope : List String := []
  remark : Remark
  deriving DecidableEq, Repr

/-- The note, seen from outside the work on `name`. -/
def Note.within (name : String) (n : Note) : Note := { n with scope := name :: n.scope }

end RegisterScript
