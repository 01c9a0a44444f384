import RegisterScript.Write

/-!
# Blocks

A block is a named straight-line list of writes.  One primitive setting may have been taken out of
the list to ride in the tag of the block's packet; the block then remembers the position it was
taken from, so that a printed block has it where it stood.
-/

namespace RegisterScript

/-- A named list of writes, with the primitive setting that rides in the tag, if any. -/
structure Block where
  name : String
  tagPrim : Option Prim := none
  /-- The position among the writes that the tag's setting was taken from. -/
  primIndex : Int := 0
  writes : List Write
  deriving DecidableEq, Repr

namespace Block

/-- The writes with the tag's setting put back where it stood; a position outside the list means
the nearer end. -/
def unpackedWrites (b : Block) : List Write :=
  match b.tagPrim with
  | none => b.writes
  | some p => b.writes.take b.primIndex.toNat ++ .prim p :: b.writes.drop b.primIndex.toNat

/-- The lines of a block's listing. -/
def listingLines (b : Block) : List String :=
  ("Block " ++ b.name ++ ":")
    :: ((b.tagPrim.map fun p =>
          "   tag  " ++ p.describe ++ " @" ++ Text.signedDecimal b.primIndex).toList
      ++ b.writes.zipIdx.map fun (w, i) => Text.decimalPadded 4 i ++ "  " ++ w.describe)

/-- A block's listing, every line ended. -/
def listing (b : Block) : String := String.join (b.listingLines.map (· ++ "\n"))

end Block

end RegisterScript
