import RegisterScript.Proofs.Emission
import RegisterScript.Proofs.PacketStream

/-!
# Blocks that fit are read back whole

A stream of packets has no marks between them: where a packet ends follows from the count in its
tag, and one wrong count would shift everything behind it.  So the walk over a stream is only right
about a packet if it was right about all packets before.

**Positions.**  `packetsFrom_append` cuts a stream in two; hence `getElem?_packetsFrom`, the packet
of a block behind any others, at the offset that these take up.

**Nothing lost.**  A block is `InRange` if its tag's setting and all its writes pass the range
check.  Nothing of it is reduced on the way (`packet_of_inRange`), so `readStream_emitted` gives the
block back as it was.

**Refusals.**  `Generator.emit_packets_eq`: a block that is too long is refused before anything is
written.
-/

namespace RegisterScript

/-! ## Positions -/

/-- The bytes that the packets of blocks take up. -/
def packetBytes (bs : List Block) : Nat := 16 * (bs.map fun b => 1 + b.writes.length).sum

lemma length_packetsFrom (offset : Nat) (bs : List Block) :
    (packetsFrom offset bs).length = bs.length := by
  induction bs generalizing offset with
  | nil => rfl
  | cons b bs ih => simp [packetsFrom, ih]

lemma packetsFrom_append (offset : Nat) (bs bs' : List Block) :
    packetsFrom offset (bs ++ bs')
      = packetsFrom offset bs ++ packetsFrom (offset + packetBytes bs) bs' := by
  induction bs generalizing offset with
  | nil => rfl
  | cons b bs ih =>
      have hoffset : offset + 16 * (1 + b.writes.length) + packetBytes bs
          = offset + packetBytes (b :: bs) := by
        simp only [packetBytes, List.map_cons, List.sum_cons]
        omega
      rw [List.cons_append, packetsFrom, packetsFrom, ih, hoffset, List.cons_append]

/-- The packet of a block stands behind those of the blocks before it. -/
lemma getElem?_packetsFrom (before after : List Block) (b : Block) :
    (packetsFrom 0 (before ++ b :: after))[before.length]?
      = some (b.packet (packetBytes before)) := by
  have hlength := length_packetsFrom 0 before
  rw [packetsFrom_append, List.getElem?_append_right (by omega), hlength, Nat.sub_self,
    Nat.zero_add, packetsFrom]
  rfl

/-! ## Nothing lost -/

namespace Block

/-- The tag's setting and all writes pass the range check. -/
structure InRange (b : Block) : Prop where
  tagPrim : ∀ p ∈ b.tagPrim, (Write.prim p).checkRange = none
  writes : ∀ w ∈ b.writes, w.checkRange = none

variable {b : Block}

lemma InRange.packable (h : b.InRange) (hcounted : b.writes.length ≤ Tag.maxLoops) :
    b.Packable where
  counted := hcounted
  tagPrim p hp := by
    obtain ⟨hreduced, hdecodable⟩ := Write.checkRange_eq_none_iff.mp (h.tagPrim p hp)
    rw [hreduced]
    exact hdecodable
  writes w hw := by
    obtain ⟨hreduced, hdecodable⟩ := Write.checkRange_eq_none_iff.mp (h.writes w hw)
    rw [hreduced]
    exact hdecodable

/-- The packet of a block in range holds the block. -/
lemma packet_of_inRange (h : b.InRange) (offset : Nat) :
    b.packet offset
      = { offset := offset, tag := b.header, prim := b.tagPrim, writes := b.writes } := by
  have hprim : b.tagPrim.map Prim.reduced = b.tagPrim := by
    cases hp : b.tagPrim with
    | none => rfl
    | some p =>
        obtain ⟨hreduced, -⟩ := Write.checkRange_eq_none_iff.mp (h.tagPrim p hp)
        exact congrArg some (Write.prim.inj hreduced)
  have hwrites : b.writes.map Write.reduced = b.writes := by
    refine (List.map_congr_left fun w hw => ?_).trans b.writes.map_id
    exact (Write.checkRange_eq_none_iff.mp (h.writes w hw)).1
  rw [packet, hprim, hwrites]

end Block

/-! ## Writing packets -/

lemma body_packets {b : Block} (h : b.writes.length ≤ Tag.maxLoops) :
    Format.packets.body b = .ok (wordsToBytes b.packetWords) := by
  rw [Format.body, Block.words_eq_packetWords h]
  rfl

lemma body_packets_of_long {b : Block} (h : Tag.maxLoops < b.writes.length) :
    Format.packets.body b = .error ⟨b.name, b.writes.length⟩ := by
  have hlong : ¬ b.writes.length ≤ Tag.maxLoops := by omega
  simp [Format.body, Block.words, Block.tag, hlong, Except.map]

/-- Packets have no header, so what is written is the words of all packets in a row. -/
lemma printed_packets (bs : List Block) :
    printed .packets (bs.map fun b => wordsToBytes b.packetWords)
      = wordsToBytes (bs.flatMap Block.packetWords) := by
  cases bs with
  | nil => rfl
  | cons b bs =>
      simp [printed, Format.header, Utf8.encode, wordsToBytes, List.flatMap_assoc,
        List.flatten_eq_flatMap, List.flatMap_map]

/-- **A block that is too long** is refused and leaves no trace; no other block is refused for its
length. -/
lemma Generator.emit_packets_eq {g : Generator} (hg : g.format = .packets) (out : Output)
    (b : Block) :
    ((∃ e, (g.emit out b).2.2 = some (.tooManyWrites e)) ↔ Tag.maxLoops < b.writes.length) ∧
      (Tag.maxLoops < b.writes.length →
        g.emit out b = (g, out, some (.tooManyWrites ⟨b.name, b.writes.length⟩))) := by
  have hrefused : Tag.maxLoops < b.writes.length →
      g.emit out b = (g, out, some (.tooManyWrites ⟨b.name, b.writes.length⟩)) := by
    intro hlong
    simp only [emit, hg, body_packets_of_long hlong]
  refine ⟨⟨?_, fun hlong => ⟨_, by rw [hrefused hlong]⟩⟩, hrefused⟩
  rintro ⟨e, he⟩
  by_contra hshort
  -- Whatever else goes wrong is the output's fault.
  rw [emit, hg, body_packets (by omega)] at he
  dsimp only at he
  split at he
  · cases he
  · split at he <;> cases he

/-- **Packet streams are read back.**  Blocks that are not too long and in range are written, and
what is written is read as one packet for each block, in order, at the offset of everything written
before it, with the block's tag, its setting and its writes.  A block is refused for its length
exactly if it has more writes than a tag can count, and then nothing is written. -/
theorem readStream_emitted (bs : List Block)
    (hcounted : ∀ b ∈ bs, b.writes.length ≤ Tag.maxLoops)
    (hprim : ∀ b ∈ bs, ∀ p ∈ b.tagPrim, (Write.prim p).checkRange = none)
    (hwrites : ∀ b ∈ bs, ∀ w ∈ b.writes, w.checkRange = none) :
    (∃ g out packets,
      Emitter.generate.emitAll ({ format := .packets }, {}) bs = some (g, out) ∧
      readStream out.contents = .ok packets ∧ packets.length = bs.length ∧
      ∀ before b after, bs = before ++ b :: after → ∃ tag, b.tag = .ok tag ∧
        packets[before.length]? = some
          { offset := 16 * (before.map fun c => 1 + c.writes.length).sum
            tag := tag
            prim := b.tagPrim
            writes := b.writes }) ∧
    ∀ (g : Generator) (out : Output) (b : Block), g.format = .packets →
      ((∃ e, (g.emit out b).2.2 = some (.tooManyWrites e)) ↔ Tag.maxLoops < b.writes.length) ∧
      (Tag.maxLoops < b.writes.length →
        g.emit out b = (g, out, some (.tooManyWrites ⟨b.name, b.writes.length⟩))) := by
  refine ⟨?_, fun g out b hg => Generator.emit_packets_eq hg out b⟩
  have hinRange : ∀ b ∈ bs, b.InRange := fun b hb => ⟨hprim b hb, hwrites b hb⟩
  obtain ⟨g, out, hall, -, hcontents⟩ := Emitter.emitAll_generate .packets
    fun b hb => body_packets (hcounted b hb)
  refine ⟨g, out, packetsFrom 0 bs, hall, ?_, length_packetsFrom 0 bs, ?_⟩
  · rw [hcontents, printed_packets]
    exact readStream_packetWords fun b hb => (hinRange b hb).packable (hcounted b hb)
  · rintro before b after rfl
    have hb : b ∈ before ++ b :: after := by simp
    refine ⟨b.header, Block.tag_eq_header (hcounted b hb), ?_⟩
    rw [getElem?_packetsFrom, Block.packet_of_inRange (hinRange b hb)]
    rfl

/-- A block with nothing but a setting in its tag, whose packet has no entries, and one behind it
with values that just fit. -/
def Block.brims : List Block :=
  [{ name := "setting", tagPrim := some { topology := .sprite, antialiasing := true }
     writes := [] },
    { name := "brim", writes := [.xyz2 ⟨0xFFF, 0xFFF, 0xFFFFFFFF⟩, .fog 0xFF,
        .tex0 ⟨0x3FFF, 0x3F, .ct16, 0xF, 0xF, true, .highlight2⟩] }]

theorem readStream_emitted_brims :
    (∀ b ∈ Block.brims, b.writes.length ≤ Tag.maxLoops) ∧
      (∀ b ∈ Block.brims, ∀ p ∈ b.tagPrim, (Write.prim p).checkRange = none) ∧
      (∀ b ∈ Block.brims, ∀ w ∈ b.writes, w.checkRange = none) ∧
      ∃ g out packets,
        Emitter.generate.emitAll ({ format := .packets }, {}) Block.brims = some (g, out) ∧
        readStream out.contents = .ok packets ∧ packets.map Packet.offset = [0, 16] := by
  have hcounted : ∀ b ∈ Block.brims, b.writes.length ≤ Tag.maxLoops := by decide
  have hprim : ∀ b ∈ Block.brims, ∀ p ∈ b.tagPrim, (Write.prim p).checkRange = none := by decide
  have hwrites : ∀ b ∈ Block.brims, ∀ w ∈ b.writes, w.checkRange = none := by decide
  obtain ⟨⟨g, out, packets, hall, hread, hlength, hpackets⟩, -⟩ :=
    readStream_emitted Block.brims hcounted hprim hwrites
  refine ⟨hcounted, hprim, hwrites, g, out, packets, hall, hread, ?_⟩
  obtain ⟨_, -, hfirst⟩ := hpackets [] _ _ rfl
  obtain ⟨_, -, hsecond⟩ := hpackets [_] _ _ rfl
  obtain ⟨p, q, rfl⟩ := List.length_eq_two.mp hlength
  cases hfirst
  cases hsecond
  rfl

end RegisterScript
