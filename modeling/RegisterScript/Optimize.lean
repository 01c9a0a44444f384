import RegisterScript.Log.Note

/-!
# Cleaning up a block

Two passes shorten the packet of a block, each switched on by a bit.

**Dead stores.**  A write without side effects that is followed at once by a write to the same
register has no effect and is dropped.  The pass goes once through the list and remembers only
whether the write it kept last may still be dropped.

**Tag setting.**  The first primitive setting of a block rides in the tag of its packet instead of
taking an entry of its own.  The block remembers where it stood.

* `Passes`, the bits.
* `DeadStores.run`, `Block.packPrim`, and `Block.optimize`, which runs the chosen passes in this
  order.  Each also returns what it has to report.
-/

namespace RegisterScript

/-- The clean-up passes to run, one bit each; other bits have no meaning. -/
structure Passes where
  bits : UInt8
  deriving DecidableEq, Repr

namespace Passes

/-- No pass. -/
def none : Passes := ⟨0⟩

/-- Dead stores are dropped. -/
def deadStores : Passes := ⟨1⟩

/-- The first primitive setting moves into the tag. -/
def tagPrim : Passes := ⟨2⟩

/-- Both passes. -/
def all : Passes := ⟨3⟩

/-- Whether all passes of `other` are chosen. -/
def has (p other : Passes) : Bool := p.bits &&& other.bits == other.bits

/-- The passes of `p` and those of `other`. -/
def union (p other : Passes) : Passes := ⟨p.bits ||| other.bits⟩

/-- The passes of `p` that are not in `other`. -/
def without (p other : Passes) : Passes := ⟨p.bits &&& ~~~other.bits⟩

/-- The names of the chosen passes. -/
def describe (p : Passes) : String :=
  let names := (if p.has deadStores then ["dse"] else [])
    ++ (if p.has tagPrim then ["tag-prim"] else [])
  if names.isEmpty then "none" else ",".intercalate names

end Passes

/-! ## Dead stores -/

/-- The state of the pass between two writes. -/
structure DeadStores where
  /-- The writes kept so far, newest first. -/
  kept : List Write := []
  /-- Whether the newest of them can still turn out to be dead. -/
  isOpen : Bool := false
  /-- The registers whose writes were dropped, newest first. -/
  dropped : List Register := []

namespace DeadStores

/-- Takes in one more write.  A write with side effects is final; any other replaces an open write
to the same register. -/
def step (s : DeadStores) (w : Write) : DeadStores :=
  if w.register.hasSideEffects then { s with kept := w :: s.kept, isOpen := false }
  else match s.isOpen, s.kept with
    | true, last :: earlier =>
      if last.register = w.register then
        { kept := w :: earlier, isOpen := true, dropped := last.register :: s.dropped }
      else { s with kept := w :: s.kept, isOpen := true }
    | _, _ => { s with kept := w :: s.kept, isOpen := true }

/-- The state after all writes. -/
def scan (writes : List Write) : DeadStores := writes.foldl step {}

/-- The writes that are left, with a remark for each one dropped. -/
def run (writes : List Write) : List Write × List Remark :=
  let s := scan writes
  (s.kept.reverse, s.dropped.reverse.map .deadStore)

end DeadStores

/-! ## Tag setting -/

/-- The primitive setting that a write makes, if it makes one. -/
def Write.prim? : Write → Option Prim
  | prim p => some p
  | _ => none

namespace Block

/-- Moves the first primitive setting into the tag, unless the tag has one already. -/
def packPrim (b : Block) : Block × List Remark :=
  match b.tagPrim, b.writes.findIdx? (·.prim?.isSome), b.writes.findSome? Write.prim? with
  | none, some i, some p =>
    ({ b with tagPrim := some p, primIndex := i, writes := b.writes.eraseIdx i }, [.packedPrim])
  | _, _, _ => (b, [])

/-- Runs the dead-store pass on a block if it is chosen. -/
def dropDeadStores (passes : Passes) (b : Block) : Block × List Remark :=
  if passes.has .deadStores then
    let (writes, remarks) := DeadStores.run b.writes
    ({ b with writes := writes }, remarks)
  else (b, [])

/-- Runs the chosen passes, dead stores first. -/
def optimize (passes : Passes) (b : Block) : Block × List Remark :=
  let (b, dropped) := b.dropDeadStores passes
  if passes.has .tagPrim then
    let (b, packed) := b.packPrim
    (b, dropped ++ packed)
  else (b, dropped)

end Block

end RegisterScript
