import RegisterScript.Block
import RegisterScript.Packet.Word

/-!
# Packet tags

A packet starts with a tag of two words.  It says how often the following list of registers is
gone through (`nloop` times, `nreg` registers each time, zero standing for sixteen), in which
format the data comes (`flg`), which registers are meant (one descriptor of four bits each in
`regs`), and whether a primitive setting rides along (`prim`, valid if `pre` is set).

* `Tag.pack` and `Tag.unpack`, through one layout.
* `Block.tag` and `Block.words`, the packet of a block: one address-and-data pair for each write.
-/

namespace RegisterScript

/-- The two words at the head of a packet. -/
structure Tag where
  nloop : UInt16
  eop : Bool := false
  pre : Bool := false
  prim : UInt16 := 0
  flg : UInt8 := 0
  nreg : UInt8 := 0
  regs : UInt64 := 0
  deriving DecidableEq, Repr

namespace Tag

/-- The fields of a tag's first word. -/
def layout : List Layout.Slot :=
  [.field 15, .field 1, .gap 30, .field 1, .field 11, .field 2, .field 4]

/-- The largest loop count a tag can hold. -/
def maxLoops : Nat := 0x7FFF

/-- The descriptor of an address-and-data pair. -/
def addressData : Nat := 0x0E

/-- The data format in which every register takes a pair of words. -/
def packed : UInt8 := 0

/-- The field values of a tag's first word. -/
def fields (t : Tag) : List Nat :=
  [t.nloop.toNat, Layout.bit t.eop, Layout.bit t.pre, t.prim.toNat, t.flg.toNat, t.nreg.toNat]

/-- The two words of a tag. -/
def pack (t : Tag) : UInt64 × UInt64 := (UInt64.ofNat (Layout.pack layout t.fields), t.regs)

/-- The tag with the given words. -/
def unpack (lo hi : UInt64) : Tag :=
  let field := fun i => (Layout.unpack layout lo.toNat).getD i 0
  { nloop := UInt16.ofNat (field 0)
    eop := field 1 = 1
    pre := field 2 = 1
    prim := UInt16.ofNat (field 3)
    flg := UInt8.ofNat (field 4)
    nreg := UInt8.ofNat (field 5)
    regs := hi }

/-- The descriptor at position `i` of the register list. -/
def descriptor (t : Tag) (i : Nat) : Nat := t.regs.toNat / Layout.capacity (4 * i) % 16

/-- The length of the register list; zero stands for sixteen. -/
def regCount (t : Tag) : Nat := if t.nreg = 0 then 16 else t.nreg.toNat

/-- The number of register entries behind the tag. -/
def entryCount (t : Tag) : Nat := t.nloop.toNat * t.regCount

end Tag

/-! ## The packet of a block -/

/-- A block with more writes than a tag can count. -/
structure TooManyWrites where
  block : String
  count : Nat
  deriving DecidableEq, Repr

/-- The wording of a refused block. -/
def TooManyWrites.message (e : TooManyWrites) : String :=
  "block " ++ e.block ++ " has " ++ Text.decimal e.count ++ " writes, at most "
    ++ Text.decimal Tag.maxLoops ++ " fit: too many writes for one GIF tag"

/-- The packed form of a primitive setting. -/
def Prim.encode (p : Prim) : Nat := Layout.pack Register.prim.layout p.fields

namespace Block

/-- The tag of a block's packet. -/
def tag (b : Block) : Except TooManyWrites Tag :=
  let n := b.writes.length
  if n ≤ Tag.maxLoops then
    .ok {
      nloop := UInt16.ofNat n
      eop := true
      pre := b.tagPrim.isSome
      prim := UInt16.ofNat ((b.tagPrim.map Prim.encode).getD 0)
      flg := Tag.packed
      nreg := 1
      regs := UInt64.ofNat Tag.addressData }
  else .error ⟨b.name, n⟩

/-- The pair of words that carries a write. -/
def entryWords (w : Write) : List UInt64 := [w.encode, w.register.address.toUInt64]

/-- The words of a block's packet: its tag, then a data word and an address word for each write. -/
def words (b : Block) : Except TooManyWrites (List UInt64) :=
  b.tag.map fun t => t.pack.1 :: t.pack.2 :: b.writes.flatMap entryWords

end Block

end RegisterScript
