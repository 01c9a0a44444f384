import RegisterScript.Disassembly
import RegisterScript.Proofs.CleanUp
import RegisterScript.Proofs.Feeding
import RegisterScript.Proofs.PacketWords
import RegisterScript.Proofs.Rebuilding
import RegisterScript.Proofs.Scanning
import RegisterScript.Proofs.Spelling

/-!
# Packed blocks read back

A block is packed as a tag and one entry for each write, and blocks are packed one behind the other.
The walk over such a stream finds every tag where it was put (`readStream_packetWords`), and what
it reads are the blocks again, with three things missing: their names, the position from which the
tag's setting was taken, and whatever did not fit into its field.

**One block.**  `readEntries_entryWords` for the entries, `Packet.read_packetWords` for the packet.

**Events.**  A packet is described by the events of a block (`events_items`), named by the position
of its tag; different positions give different names (`blockName_injective`).  Hence
`trace_disassemble`, which says what packed blocks are taken apart to.
-/

namespace RegisterScript

/-! ## One block -/

namespace Block

/-- The tag of a block's packet, if it can have one. -/
def header (b : Block) : Tag := b.tag.toOption.getD { nloop := 0 }

/-- The words of a block's packet, if it can have a tag. -/
def packetWords (b : Block) : List UInt64 :=
  b.header.pack.1 :: b.header.pack.2 :: b.writes.flatMap entryWords

/-- A block that can be packed and whose packet can be read. -/
structure Packable (b : Block) : Prop where
  counted : b.writes.length ≤ Tag.maxLoops
  tagPrim : ∀ p ∈ b.tagPrim, (Write.prim p).reduced.Decodable
  writes : ∀ w ∈ b.writes, w.reduced.Decodable

/-- What is read from a block's packet at a byte offset. -/
def packet (offset : Nat) (b : Block) : Packet where
  offset := offset
  tag := b.header
  prim := b.tagPrim.map Prim.reduced
  writes := b.writes.map Write.reduced

variable {b : Block}

lemma tag_eq_header (h : b.writes.length ≤ Tag.maxLoops) : b.tag = .ok b.header := by
  simp [header, tag, h, Except.toOption]

lemma words_eq_packetWords (h : b.writes.length ≤ Tag.maxLoops) : b.words = .ok b.packetWords := by
  rw [words, tag_eq_header h]
  rfl

lemma header_eq (h : b.writes.length ≤ Tag.maxLoops) : b.header =
    { nloop := UInt16.ofNat b.writes.length
      eop := true
      pre := b.tagPrim.isSome
      prim := UInt16.ofNat ((b.tagPrim.map Prim.encode).getD 0)
      flg := Tag.packed
      nreg := 1
      regs := UInt64.ofNat Tag.addressData } := by
  simp [header, tag, h, Except.toOption]

lemma toNat_nloop_header (h : b.writes.length ≤ Tag.maxLoops) :
    b.header.nloop.toNat = b.writes.length := by
  rw [Tag.maxLoops] at h
  rw [header_eq h]
  exact UInt16.toNat_ofNat_of_lt' (by change _ < 65536; omega)

lemma toNat_prim_header (h : b.writes.length ≤ Tag.maxLoops) :
    b.header.prim.toNat = (b.tagPrim.map Prim.encode).getD 0 := by
  have hlt : (b.tagPrim.map Prim.encode).getD 0 < 2 ^ 8 := by
    cases b.tagPrim with
    | none => decide
    | some p => exact p.encode_lt
  rw [header_eq h]
  exact UInt16.toNat_ofNat_of_lt' (by change _ < 65536; omega)

/-- Every field of the tag fits. -/
lemma reduced_header (h : b.writes.length ≤ Tag.maxLoops) : b.header.reduced = b.header := by
  have hnloop : b.header.nloop.toNat % Layout.capacity 15 = b.header.nloop.toNat := by
    rw [toNat_nloop_header h]
    exact Nat.mod_eq_of_lt (Nat.lt_succ_of_le h)
  have hprim : b.header.prim.toNat % Layout.capacity 11 = b.header.prim.toNat := by
    rw [toNat_prim_header h]
    cases b.tagPrim with
    | none => rfl
    | some p => exact Nat.mod_eq_of_lt (lt_of_lt_of_le p.encode_lt (by decide))
  rw [Tag.reduced, hnloop, hprim, UInt16.ofNat_toNat, UInt16.ofNat_toNat, header_eq h]
  rfl

lemma regCount_header (h : b.writes.length ≤ Tag.maxLoops) : b.header.regCount = 1 := by
  rw [header_eq h]
  rfl

lemma entryCount_header (h : b.writes.length ≤ Tag.maxLoops) :
    b.header.entryCount = b.writes.length := by
  rw [Tag.entryCount, regCount_header h, toNat_nloop_header h, Nat.mul_one]

lemma descriptor_header (h : b.writes.length ≤ Tag.maxLoops) (i : Nat) :
    b.header.descriptor (i % b.header.regCount) = Tag.addressData := by
  have hregs : b.header.regs = UInt64.ofNat Tag.addressData := by rw [header_eq h]
  rw [regCount_header h, Nat.mod_one, Tag.descriptor, hregs]
  decide

lemma decodePrim_header (hb : b.Packable) (offset : Nat) :
    b.header.decodePrim offset = .ok (b.tagPrim.map Prim.reduced) := by
  have hpre : b.header.pre = b.tagPrim.isSome := by rw [header_eq hb.counted]
  rw [Tag.decodePrim, hpre, toNat_prim_header hb.counted]
  cases hprim : b.tagPrim with
  | none => rfl
  | some p => simp [Prim.decode_encode (hb.tagPrim p hprim)]

lemma length_flatMap_entryWords (ws : List Write) :
    (ws.flatMap entryWords).length = 2 * ws.length := by
  simp [entryWords, List.length_flatMap, Nat.mul_comm]

lemma length_packetWords (b : Block) : b.packetWords.length = 2 * (1 + b.writes.length) := by
  rw [packetWords, List.length_cons, List.length_cons, length_flatMap_entryWords]
  omega

/-- Neither the name of a block nor anything that does not fit matters to its packet. -/
lemma packetWords_of_reduced {c : Block} (htag : c.tagPrim = b.tagPrim.map Prim.reduced)
    (hwrites : c.writes = b.writes.map Write.reduced) : c.packetWords = b.packetWords := by
  have hprim : c.tagPrim.map Prim.encode = b.tagPrim.map Prim.encode := by
    rw [htag, Option.map_map]
    exact Option.map_congr fun p _ => p.encode_reduced
  have hentries : c.writes.flatMap entryWords = b.writes.flatMap entryWords := by
    rw [hwrites, List.flatMap_map]
    refine List.flatMap_congr fun w _ => ?_
    rw [entryWords, entryWords, Write.encode_reduced, Write.register_reduced]
  have hlength : c.writes.length = b.writes.length := by rw [hwrites, List.length_map]
  have hheader : c.header = b.header := by
    by_cases h : b.writes.length ≤ Tag.maxLoops
    · rw [header_eq h, header_eq (hlength ▸ h), hlength, hprim, htag, Option.isSome_map]
    · simp [header, tag, hlength, h, Except.toOption]
  rw [packetWords, packetWords, hheader, hentries]

end Block

lemma Register.ofAddressWord?_address (r : Register) :
    Register.ofAddressWord? r.address.toUInt64 = some r := by
  cases r <;> decide

/-- **The entries of a packet are read** to the reduced writes, whatever stands behind them. -/
lemma readEntries_entryWords {tag : Tag}
    (htag : ∀ i, tag.descriptor (i % tag.regCount) = Tag.addressData) (offset : Nat)
    {ws : List Write} (hws : ∀ w ∈ ws, w.reduced.Decodable) (index position : Nat)
    (read : List Write) (rest : List UInt64) :
    readEntries tag offset ws.length index position read (ws.flatMap Block.entryWords ++ rest)
      = .ok (read.reverse ++ ws.map Write.reduced) := by
  induction ws generalizing index position read with
  | nil => simp [readEntries]
  | cons w ws ih =>
      have hrest := ih (fun v hv => hws v (by simp [hv])) (index + 1) (position + 16)
        (w.reduced :: read)
      simp only [List.length_cons, List.flatMap_cons, Block.entryWords, List.cons_append,
        List.nil_append, readEntries, htag, ne_eq, not_true_eq_false, if_false,
        Register.ofAddressWord?_address, Write.decode_encode (hws w (by simp))]
      simpa using hrest

lemma Packet.read_packetWords {b : Block} (hb : b.Packable) (offset : Nat) (rest : List UInt64) :
    Packet.read offset b.header (b.writes.flatMap Block.entryWords ++ rest)
      = .ok (b.packet offset) := by
  have hflg : b.header.flg = Tag.packed := by rw [Block.header_eq hb.counted]
  have hentries := readEntries_entryWords (Block.descriptor_header hb.counted) offset hb.writes 0
    (offset + 16) [] rest
  simp [Packet.read, hflg, Block.decodePrim_header hb, Block.entryCount_header hb.counted, hentries,
    Block.packet]

/-! ## Several blocks -/

/-- What is read from the packets of blocks, the first of which is at a byte offset. -/
def packetsFrom (offset : Nat) : List Block → List Packet
  | [] => []
  | b :: bs => b.packet offset :: packetsFrom (offset + 16 * (1 + b.writes.length)) bs

lemma readPacketsFrom_packetWords {bs : List Block} (hbs : ∀ b ∈ bs, b.Packable)
    (read : List Packet) (offset : Nat) :
    readPacketsFrom read offset (bs.flatMap Block.packetWords)
      = .ok (read.reverse ++ packetsFrom offset bs) := by
  induction bs generalizing read offset with
  | nil => simp [readPacketsFrom, packetsFrom]
  | cons b bs ih =>
      have hb := hbs b (by simp)
      have hrest := ih (fun b' hb' => hbs b' (by simp [hb'])) (b.packet offset :: read)
        (offset + 16 * (1 + b.writes.length))
      have htag : Tag.unpack b.header.pack.1 b.header.pack.2 = b.header := by
        rw [Tag.unpack_pack, Block.reduced_header hb.counted]
      have hoffset : offset + 16 + 16 * b.writes.length = offset + 16 * (1 + b.writes.length) := by
        omega
      rw [List.flatMap_cons, Block.packetWords, List.cons_append, List.cons_append, readPacketsFrom]
      simp only [htag, Packet.read_packetWords hb, Block.entryCount_header hb.counted, hoffset,
        ← Block.length_flatMap_entryWords, List.drop_left]
      rw [hrest, packetsFrom]
      simp

lemma exists_of_mem_packetsFrom {offset : Nat} {bs : List Block} {p : Packet}
    (h : p ∈ packetsFrom offset bs) : ∃ b ∈ bs, p = b.packet p.offset ∧ offset ≤ p.offset := by
  induction bs generalizing offset with
  | nil => simp [packetsFrom] at h
  | cons b bs ih =>
      rcases List.mem_cons.mp h with rfl | h
      · exact ⟨b, by simp, rfl, le_refl offset⟩
      · obtain ⟨b', hb', hp, hlater⟩ := ih h
        exact ⟨b', by simp [hb'], hp, by omega⟩

lemma map_packetsFrom {α : Type} {f : Packet → α} {g : Block → α} {bs : List Block}
    (h : ∀ b ∈ bs, ∀ offset, f (b.packet offset) = g b) (offset : Nat) :
    (packetsFrom offset bs).map f = bs.map g := by
  induction bs generalizing offset with
  | nil => rfl
  | cons b bs ih =>
      rw [packetsFrom, List.map_cons, List.map_cons, h b (by simp),
        ih fun b' hb' => h b' (by simp [hb'])]

/-- **Packed blocks are read back**, packet by packet. -/
theorem readStream_packetWords {bs : List Block} (hbs : ∀ b ∈ bs, b.Packable) :
    readStream (wordsToBytes (bs.flatMap Block.packetWords)) = .ok (packetsFrom 0 bs) := by
  rw [readStream, readWords_wordsToBytes]
  exact readPacketsFrom_packetWords hbs [] 0

/-! ## Events -/

/-- The block that a packet is taken apart to. -/
def Packet.block (p : Packet) : Block where
  name := blockName p.offset
  tagPrim := p.prim
  writes := p.writes

/-- The tag's setting comes first. -/
lemma Packet.unpackedWrites_block (p : Packet) :
    p.block.unpackedWrites = p.prim.toList.map Write.prim ++ p.writes := by
  cases h : p.prim <;> simp [Block.unpackedWrites, Packet.block, h]

lemma Block.unpackedWrites_block_packet (offset : Nat) (b : Block) :
    (b.packet offset).block.unpackedWrites = b.executed.map Write.reduced := by
  rw [Packet.unpackedWrites_block, Block.executed, List.map_append, Block.packet]
  cases b.tagPrim <;> rfl

lemma events_flatMap {α : Type} (items : α → List TraceItem) (xs : List α) :
    TraceItem.events (xs.flatMap items) = xs.flatMap fun x => TraceItem.events (items x) := by
  induction xs with
  | nil => rfl
  | cons x xs ih => rw [List.flatMap_cons, List.flatMap_cons, TraceItem.events_append, ih]

/-- The events of a packet are those of its block. -/
lemma events_items (p : Packet) : TraceItem.events p.items = p.block.events := by
  have hwrites : (p.writes.zipIdx.flatMap fun x => x.1.events) = p.writes.flatMap Write.events := by
    conv_rhs => rw [← List.zipIdx_map_fst 0 p.writes, List.flatMap_map]
  have hprim : (p.prim.toList.flatMap fun q => (Write.prim q).events)
      = (p.prim.toList.map Write.prim).flatMap Write.events := by rw [List.flatMap_map]
  rw [Packet.items, replay, Block.events, p.unpackedWrites_block, List.flatMap_append, ← hprim,
    ← hwrites]
  simp [events_flatMap, Packet.block]

/-- **Packed blocks are taken apart** to the events of the blocks that their packets stand for. -/
theorem trace_disassemble {bs : List Block} (hbs : ∀ b ∈ bs, b.Packable) :
    let t := disassemble (wordsToBytes (bs.flatMap Block.packetWords)) .complete
    t.fault = none ∧ t.events = ((packetsFrom 0 bs).map Packet.block).flatMap Block.events := by
  simp only [disassemble, readStream_packetWords hbs, Trace.events, events_flatMap, events_items,
    List.flatMap_map, and_self]

/-! ## Names -/

lemma blockName_injective : Function.Injective blockName := by
  intro offset offset' h
  have hlist := congrArg String.toList h
  simp only [blockName, Text.hex, String.toList_append, String.toList_ofList] at hlist
  exact hexDigits_injective (List.append_cancel_left hlist)

lemma isName_blockName (offset : Nat) : IsName (blockName offset) := by
  refine ⟨'b', ['l', 'o', 'c', 'k', '_'] ++ Text.hexDigits offset, ?_, by decide, ?_, ?_⟩
  · simp [blockName, Text.hex]
  · intro d hd
    rcases List.mem_append.mp hd with hd | hd
    · simp only [List.mem_cons, List.not_mem_nil, or_false] at hd
      rcases hd with rfl | rfl | rfl | rfl | rfl <;> decide
    · exact continuesName_of_isHexDigit (isHexDigit_of_mem_hexDigits hd)
  · simp [blockName, Text.hex, keyword]

/-- Every packet of a stream gets a name of its own. -/
lemma nodup_names_packetsFrom (offset : Nat) (bs : List Block) :
    (((packetsFrom offset bs).map Packet.block).map Block.name).Nodup := by
  rw [List.map_map]
  induction bs generalizing offset with
  | nil => exact List.nodup_nil
  | cons b bs ih =>
      refine List.nodup_cons.mpr ⟨?_, ih _⟩
      intro hmem
      obtain ⟨p, hp, hname⟩ := List.mem_map.mp hmem
      obtain ⟨-, -, -, hlater⟩ := exists_of_mem_packetsFrom hp
      have hsame : p.offset = offset := blockName_injective hname
      omega

end RegisterScript
