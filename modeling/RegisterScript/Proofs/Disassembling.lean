import Mathlib.Data.List.TakeWhile
import RegisterScript.Proofs.PacketGrammar
import RegisterScript.Proofs.PacketRoundTrip

/-!
# What a machine makes of a packet stream

A stream that can be read is turned into events, and a machine is under no obligation to accept
events that nobody has checked: a name might come twice, a register might not take its operands, or
not be ready when the next one is selected.  None of this happens.  The only thing that a packet can
lack is a write, and then its block is empty.

**One packet.**  A packet is `isHollow` if it has neither a setting nor a write.  Any other is
described by the events of a block that can be rebuilt (`rebuildable_of_readStream`); a hollow one
is opened and cannot be closed (`feedItems_hollow`).

**All packets.**  `feedItems_packets` takes a machine through the packets before the first hollow
one; names are different since offsets are (`nodup_names_of_readStream`).  `feed_disassemble` puts
the two together.
-/

namespace RegisterScript

/-! ## One packet -/

namespace Packet

/-- A packet without a setting and without writes. -/
def isHollow (p : Packet) : Bool := p.prim.isNone && p.writes.isEmpty

lemma isHollow_eq_false_iff {p : Packet} :
    p.isHollow = false ↔ p.prim.isSome = true ∨ p.writes ≠ [] := by
  cases h : p.prim <;> simp [isHollow, h]

/-- The block that a packet describes: the tag's setting first, and no texture with its own
alpha. -/
def described (p : Packet) : Block where
  name := blockName p.offset
  writes := (p.prim.toList.map Write.prim ++ p.writes).map Write.withoutAlpha

lemma rebuilt_block (p : Packet) : p.block.rebuilt = p.described := by
  rw [Block.rebuilt, p.unpackedWrites_block]
  rfl

lemma items_of_isHollow {p : Packet} (h : p.isHollow = true) :
    p.items = [.remark (.tagFound p.offset p.tag.nloop.toNat p.tag.pre),
      .event .bare (.startBlock (blockName p.offset)), .event .bare .close] := by
  simp only [isHollow, Bool.and_eq_true, Option.isNone_iff_eq_none, List.isEmpty_iff] at h
  simp [items, replay, h]

end Packet

section Stream

variable {bytes : Bytes} {packets : List Packet}

lemma rebuildable_of_readStream (h : readStream bytes = .ok packets) {p : Packet}
    (hp : p ∈ packets) (hfilled : p.isHollow = false) : p.block.Rebuildable := by
  constructor
  · rw [p.unpackedWrites_block]
    intro hnil
    simp only [List.append_eq_nil_iff, List.map_eq_nil_iff] at hnil
    rcases Packet.isHollow_eq_false_iff.mp hfilled with hprim | hwrites
    · rw [Option.toList_eq_nil_iff.mp hnil.1] at hprim
      cases hprim
    · exact hwrites hnil.2
  · rw [p.unpackedWrites_block]
    exact named_of_readStream h hp

/-- Every packet of a stream gets a name of its own. -/
lemma nodup_names_of_readStream (h : readStream bytes = .ok packets) :
    (packets.map fun p => blockName p.offset).Nodup := by
  have hoffsets : (packets.map Packet.offset).Nodup :=
    (offsets_of_readStream h).imp fun hlt => ne_of_lt hlt
  have hnames := hoffsets.map blockName_injective
  rwa [List.map_map] at hnames

end Stream

/-! ## Machines -/

namespace Machine

/-- A block that has just been opened cannot be closed. -/
lemma step_close_openNew (passes : Passes) (m : Machine) (name : String) :
    (m.openNew .block name).step passes .close
      = (m.openNew .block name).refuse (.emptyContainer .block name) := by
  have hcur := Holds.current?_openNew m ⟨.block, name, []⟩
  rw [step, close, hcur]
  rfl

end Machine

section Feeding

variable {τ : Type} (passes : Passes) {emitter : Emitter τ}

/-- **Packets that are not hollow** go through, each as the block that it describes. -/
lemma feedItems_packets (hemitter : ∀ t b, (emitter.emit t b).2.2 = none) (t : τ)
    {packets : List Packet} (hpackets : ∀ p ∈ packets, p.block.Rebuildable)
    (hnames : (packets.map fun p => blockName p.offset).Nodup) :
    ∃ a, feedItems (Assembly.sink passes emitter) { target := t } (packets.flatMap Packet.items)
        = (a, none) ∧
      a.machine.Holds (packets.map fun p => p.block.definition) ∧
      a.target = (packets.map fun p => p.described.optimized passes).foldl
        (fun t b => (emitter.emit t b).1) t := by
  have hblocks : ∀ b ∈ packets.map Packet.block, b.Rebuildable := by
    intro b hb
    obtain ⟨p, hp, rfl⟩ := List.mem_map.mp hb
    exact hpackets p hp
  obtain ⟨m, hm, hrun⟩ := holds_rebuilt hblocks (by rwa [List.map_map]) passes
  have hevents : TraceItem.events (packets.flatMap Packet.items)
      = (packets.map Packet.block).flatMap Block.events := by
    simp only [events_flatMap, events_items, List.flatMap_map]
  have hdescribed : (packets.map Packet.block).map (fun b => b.rebuilt.optimized passes)
      = packets.map fun p => p.described.optimized passes := by
    simp only [List.map_map, Function.comp_def, Packet.rebuilt_block]
  rw [← hevents, hdescribed] at hrun
  obtain ⟨notes, hfeed⟩ := feedItems_of_run (a := { target := t }) hrun
    (Emitter.emitAll_eq_foldl hemitter t _)
  refine ⟨_, hfeed, ?_, rfl⟩
  rwa [List.map_map] at hm

/-- **A hollow packet** ends the feeding, whatever comes behind it. -/
lemma feedItems_hollow (emitter : Emitter τ) {a : Assembly τ} {program : Program}
    (ha : a.machine.Holds program) {p : Packet} (hp : p.isHollow = true)
    (hfresh : blockName p.offset ∉ program.map Definition.name) (rest : List TraceItem) :
    ∃ a', feedItems (Assembly.sink passes emitter) a (p.items ++ rest)
        = (a', some (.machine (.emptyContainer .block (blockName p.offset)))) ∧
      a'.target = a.target := by
  have hidle := Machine.current?_of_active_none ha.idle
  have hslot := (ha.names _).mpr hfresh
  have hopened : a.machine.advance passes (ContainerKind.block.startEvent (blockName p.offset))
      = some (a.machine.openNew .block (blockName p.offset), none) :=
    Machine.advance_of_advances (.opened hidle hslot)
  obtain ⟨notes, hacc⟩ := Assembly.accept_of_silent
    (a := a.remark [.tagFound p.offset p.tag.nloop.toNat p.tag.pre]) emitter hopened
  have hrefused := Assembly.accept_of_refuse emitter
    (a := { a with machine := a.machine.openNew .block (blockName p.offset), notes := notes })
    (Machine.step_close_openNew passes a.machine (blockName p.offset))
  refine ⟨{ a with machine := a.machine.openNew .block (blockName p.offset), notes := notes },
    ?_, rfl⟩
  rw [Packet.items_of_isHollow hp, List.cons_append, feedItems]
  exact (feedItems_of_accepted hacc _).trans (feedItems_of_stopped hrefused rest)

/-- **A stream** goes through up to its first hollow packet. -/
lemma feedItems_stream (hemitter : ∀ t b, (emitter.emit t b).2.2 = none) (t : τ) {bytes : Bytes}
    {packets : List Packet} (h : readStream bytes = .ok packets) :
    let fed := feedItems (Assembly.sink passes emitter) { target := t }
      (packets.flatMap Packet.items)
    fed.2 = (packets.find? Packet.isHollow).map
        (fun p => .machine (.emptyContainer .block (blockName p.offset))) ∧
      fed.1.target =
        ((packets.takeWhile fun p => !p.isHollow).map fun p => p.described.optimized passes).foldl
          (fun t b => (emitter.emit t b).1) t := by
  have hsplit := (List.takeWhile_append_dropWhile (p := fun p => !p.isHollow) (l := packets)).symm
  have hnames := nodup_names_of_readStream h
  have hfront : ∀ p ∈ packets.takeWhile (fun p => !p.isHollow), p.block.Rebuildable := by
    intro p hp
    have hfilled : p.isHollow = false := by simpa using List.mem_takeWhile_imp hp
    exact rebuildable_of_readStream h ((List.takeWhile_prefix _).subset hp) hfilled
  -- What is left behind the front starts with the first hollow packet, or is empty.
  generalize packets.takeWhile (fun p => !p.isHollow) = front at hsplit hfront ⊢
  rw [List.find?_eq_head?_dropWhile_not]
  rw [hsplit, List.map_append, List.nodup_append] at hnames
  obtain ⟨hdistinct, -, hapart⟩ := hnames
  obtain ⟨a, hfeed, hholds, htarget⟩ := feedItems_packets passes hemitter t hfront hdistinct
  cases hrest : packets.dropWhile (fun p => !p.isHollow) with
  | nil =>
      rw [hrest, List.append_nil] at hsplit
      rw [hsplit, hfeed]
      exact ⟨rfl, htarget⟩
  | cons p after =>
      have hp : p.isHollow = true := by
        simpa [hrest] using List.head?_dropWhile_not (fun p => !p.isHollow) packets
      have hfresh : blockName p.offset ∉
          (front.map fun q => q.block.definition).map Definition.name := by
        rw [List.map_map]
        exact fun hmem => hapart _ hmem _ (by simp [hrest]) rfl
      obtain ⟨a', hstop, hkept⟩ := feedItems_hollow passes emitter hholds hp hfresh
        (after.flatMap Packet.items)
      rw [hsplit, hrest, List.flatMap_append, feedItems_append hfeed, List.flatMap_cons, hstop]
      exact ⟨rfl, hkept.trans htarget⟩

end Feeding

/-! ## Streams -/

/-- A stream that can be read is fed packet by packet. -/
lemma feed_disassemble_of_readStream {bytes : Bytes} {packets : List Packet}
    (h : readStream bytes = .ok packets) {σ : Type} (sink : Sink σ) (x : σ) :
    (disassemble bytes .complete).feed sink x
      = feedItems sink x (packets.flatMap Packet.items) := by
  simp only [disassemble, h, Trace.feed]
  rcases feedItems sink x (packets.flatMap Packet.items) with ⟨y, _ | f⟩ <;> rfl

/-- **Taking a stream apart.**  A stream that can be read is accepted by a fresh machine with an
emitter that never refuses exactly if every packet has a setting or a write.  Otherwise the machine
refuses to close the block of the first packet that has neither, and nothing else.  The emitter gets
the blocks that the packets before that one describe, in order, each cleaned up.  A stream that
cannot be read, or cannot be delivered, reaches no sink at all. -/
theorem feed_disassemble {τ : Type} (passes : Passes) (emitter : Emitter τ)
    (hemitter : ∀ t b, (emitter.emit t b).2.2 = none) (t : τ) (bytes : Bytes) :
    (∀ packets, readStream bytes = .ok packets →
      let fed := (disassemble bytes .complete).feed (Assembly.sink passes emitter) { target := t }
      (fed.2 = none ↔ ∀ p ∈ packets, p.prim.isSome = true ∨ p.writes ≠ []) ∧
      fed.2 = (packets.find? Packet.isHollow).map
        (fun p => .machine (.emptyContainer .block (blockName p.offset))) ∧
      fed.1.target =
        ((packets.takeWhile fun p => !p.isHollow).map
          fun p => (p.described.optimize passes).1).foldl (fun t b => (emitter.emit t b).1) t) ∧
    ∀ {σ : Type} (sink : Sink σ) (x : σ),
      (∀ e, readStream bytes = .error e →
        (disassemble bytes .complete).feed sink x = (x, some (.packet e))) ∧
      ∀ cause, (disassemble bytes (.broken cause)).feed sink x = (x, some (.device cause)) := by
  refine ⟨?_, fun sink x => ⟨fun e he => ?_, fun cause => rfl⟩⟩
  · intro packets h fed
    have hfed : fed = feedItems (Assembly.sink passes emitter) { target := t }
        (packets.flatMap Packet.items) := feed_disassemble_of_readStream h _ _
    obtain ⟨hfault, htarget⟩ := feedItems_stream passes hemitter t h
    rw [hfed]
    refine ⟨?_, hfault, htarget⟩
    rw [hfault]
    simp [← Packet.isHollow_eq_false_iff]
  · simp [disassemble, he, Trace.feed, feedItems]

/-- A texture with its own alpha under a setting in the tag, then nothing, then a setting alone. -/
def Block.gap : List Block :=
  [{ name := "textured", tagPrim := some { topology := .sprite, texture := true }
     writes := [.tex0 ⟨0x20, 1, .ct16, 6, 6, true, .highlight2⟩] },
    { name := "nothing", writes := [] },
    { name := "setting", tagPrim := some { topology := .sprite }, writes := [] }]

theorem feed_disassemble_gap :
    ∃ packets, (∀ t b, (Emitter.collect.emit t b).2.2 = none) ∧
      readStream (wordsToBytes (Block.gap.flatMap Block.packetWords)) = .ok packets ∧
      let fed := (disassemble (wordsToBytes (Block.gap.flatMap Block.packetWords)) .complete).feed
        (Assembly.sink .none Emitter.collect) { target := [] }
      fed.2 = some (.machine (.emptyContainer .block "block_20")) ∧
      fed.1.target = [{
        name := "block_0"
        writes := [.prim { topology := .sprite, texture := true },
          .tex0 ⟨0x20, 1, .ct16, 6, 6, false, .highlight2⟩] }] := by
  have hcounted : ∀ b ∈ Block.gap, b.writes.length ≤ Tag.maxLoops := by decide
  have hprim : ∀ b ∈ Block.gap, ∀ p ∈ b.tagPrim, (Write.prim p).checkRange = none := by decide
  have hwrites : ∀ b ∈ Block.gap, ∀ w ∈ b.writes, w.checkRange = none := by decide
  have hpackable : ∀ b ∈ Block.gap, b.Packable := fun b hb =>
    Block.InRange.packable ⟨hprim b hb, hwrites b hb⟩ (hcounted b hb)
  have hread := readStream_packetWords hpackable
  obtain ⟨-, hfault, htarget⟩ :=
    (feed_disassemble .none Emitter.collect (fun _ _ => rfl) [] _).1 _ hread
  refine ⟨_, fun _ _ => rfl, hread, ?_⟩
  exact ⟨hfault.trans (by decide), htarget.trans (by decide)⟩

end RegisterScript
