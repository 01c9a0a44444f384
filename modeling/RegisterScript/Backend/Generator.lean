import RegisterScript.Backend.CArray
import RegisterScript.Backend.ScriptText

/-!
# Generators

A generator writes blocks to an output, one chunk for each block; the first chunk starts with the
header of the format.  The first failure of the output is remembered: from then on nothing is
written any more, and every block and the final closing fail with that same error.  A block that
has no form in the format is refused and leaves the generator as it was.
-/

namespace RegisterScript

/-- The text before the first block. -/
def Format.header : Format → String
  | cArray _ => CArray.prologue
  | script => ScriptText.header
  | packets => ""

/-- The bytes of a block, without the header. -/
def Format.body : Format → Block → Except TooManyWrites Bytes
  | cArray mode, b => (CArray.render mode b).map Utf8.encode
  | script, b => .ok (Utf8.encode (ScriptText.render b))
  | packets, b => b.words.map wordsToBytes

/-- Writes blocks in a format. -/
structure Generator where
  format : Format
  /-- Whether a chunk has been handed over, and with it the header. -/
  started : Bool := false
  /-- The first failure of the output. -/
  failure : Option DeviceError := none
  deriving DecidableEq, Repr

namespace Generator

/-- The chunk for the next block with the given bytes. -/
def chunk (g : Generator) (body : Bytes) : Bytes :=
  if g.started then body else Utf8.encode g.format.header ++ body

/-- Writes one block. -/
def emit (g : Generator) (out : Output) (b : Block) : Generator × Output × Option Fault :=
  match g.format.body b with
  | .error e => (g, out, some (.tooManyWrites e))
  | .ok body =>
    match g.failure with
    | some e => ({ g with started := true }, out, some (.device e))
    | none =>
      match out.write (g.chunk body) with
      | (out, none) => ({ g with started := true }, out, none)
      | (out, some e) => ({ g with started := true, failure := some e }, out, some (.device e))

/-- Ends the output; a failure that struck earlier is reported again. -/
def close (g : Generator) : Option Fault := g.failure.map .device

end Generator

end RegisterScript
