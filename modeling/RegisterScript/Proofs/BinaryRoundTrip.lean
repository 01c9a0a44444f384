import RegisterScript.Proofs.PacketRoundTrip
import RegisterScript.Proofs.Printing

/-!
# Packed, taken apart, packed again

A packet does not say where its tag's setting came from.  Taken apart, the setting comes first; so
the script that is printed for a packet is not the script that the packet was compiled from, and
compiling it again can find something to clean up that was not there before: two writes to the same
register with nothing but the setting between them.

**One block.**  The setting in front is never dead and moves into the tag again, so all that can
happen is that the dead-store pass finds more to drop (`optimized_executed`).  It does so exactly if
the setting kept a dead store from being one, `SeparatesDeadStore` (`clean_writes_iff`).

**All blocks.**  `writeTrace_packets`, `disassembleTo_packetWords` and `compileTo_printed` follow
the blocks through the three runs.  If a packet gets shorter, so does the whole stream
(`wordsToBytes_clean_iff`).
-/

namespace RegisterScript

/-! ## One block -/

namespace Block

/-- The tag's setting was taken from between two writes to one register, the first of which has no
side effects. -/
def SeparatesDeadStore (b : Block) : Prop :=
  b.tagPrim.isSome = true ∧ 0 < b.primIndex ∧ b.primIndex < b.writes.length ∧
    ∃ w next, b.writes[b.primIndex.toNat - 1]? = some w ∧ b.writes[b.primIndex.toNat]? = some next ∧
      w.register = next.register ∧ w.register.hasSideEffects = false

/-- What is known of a block that the passes have left: either it has no setting in its tag, or the
setting was the first one and stood among the writes, none of them dead. -/
lemma optimized_inv {passes : Passes} {b c : Block} (hb : b.tagPrim = none)
    (hc : b.optimized passes = c) :
    (c.tagPrim = none ∧ passes.clean c.writes = c.writes ∧
        (passes.has .tagPrim = true → ∀ w ∈ c.writes, w.prim? = none)) ∨
      ∃ pre p post, passes.has .tagPrim = true ∧ c.tagPrim = some p ∧ c.primIndex = pre.length ∧
        c.writes = pre ++ post ∧ (∀ w ∈ pre, w.prim? = none) ∧
        passes.clean (pre ++ .prim p :: post) = pre ++ .prim p :: post := by
  rcases optimized_cases passes hb with ⟨hsame, hnone⟩ | ⟨pre, p, post, hpass, hws, hpre, hmoved⟩
  · left
    rw [← hc, hsame]
    exact ⟨hb, passes.clean_clean b.writes, hnone⟩
  · right
    rw [← hc, hmoved]
    refine ⟨pre, p, post, hpass, rfl, rfl, rfl, hpre, ?_⟩
    rw [← hws, passes.clean_clean]

/-- The block with its dead stores dropped, if that is chosen. -/
def cleaned (passes : Passes) (b : Block) : Block := { b with writes := passes.clean b.writes }

variable {passes : Passes} {b c : Block}

/-- The setting in front of the writes is not dead. -/
lemma clean_executed (hb : b.tagPrim = none) (hc : b.optimized passes = c) :
    passes.clean c.executed = c.tagPrim.toList.map .prim ++ passes.clean c.writes := by
  rcases optimized_inv hb hc with ⟨htag, -, -⟩ | ⟨pre, p, post, -, htag, -, hwrites, hpre, hclean⟩
  · simp [executed, htag]
  · rw [executed, htag, hwrites]
    by_cases hdead : passes.has .deadStores = true
    · simp only [Passes.clean, if_pos hdead] at hclean ⊢
      have hchain : NoDeadStore (pre ++ .prim p :: post) := (survivors_eq_self_iff _).mp hclean
      have hfront : ∀ next ∈ (pre ++ post).head?, (Write.prim p).deadBefore next = false := by
        intro next hnext
        cases pre with
        | nil => exact (List.isChain_cons.mp hchain).1 next hnext
        | cons w pre =>
            obtain rfl : w = next := by simpa using hnext
            exact deadBefore_of_ne ((Write.prim?_eq_none_iff w).mp (hpre w (by simp))).symm
      cases hrest : pre ++ post with
      | nil => rfl
      | cons next rest =>
          have hlive := hfront next (by simp [hrest])
          simp [survivors, hlive]
    · simp [Passes.clean, hdead]

/-- **A block that the passes have left, its tag's setting in front, cleaned up once more.**  The
setting moves into the tag again; of the writes is left what the dead-store pass leaves of them. -/
lemma optimized_executed (hb : b.tagPrim = none) (hc : b.optimized passes = c) (name : String) :
    let again := ({ name := name, writes := c.executed.map .reduced } : Block).optimized passes
    again.tagPrim = c.tagPrim.map Prim.reduced ∧
      again.writes = (passes.clean c.writes).map Write.reduced := by
  have hclean : passes.clean (c.executed.map Write.reduced)
      = c.tagPrim.toList.map (fun p => .prim p.reduced)
        ++ (passes.clean c.writes).map Write.reduced := by
    rw [Passes.clean_map passes Write.register_reduced, clean_executed hb hc, List.map_append,
      List.map_map]
    rfl
  simp only [optimized_eq, hclean]
  rcases optimized_inv hb hc with ⟨htag, -, hnone⟩ | ⟨pre, p, post, hpass, htag, -⟩
  · rw [htag]
    split
    · rename_i hpass
      have hplain : ∀ w ∈ (passes.clean c.writes).map Write.reduced, w.prim? = none := by
        intro w hw
        obtain ⟨v, hv, rfl⟩ := List.mem_map.mp hw
        have hreg := (Write.prim?_eq_none_iff v).mp
          (hnone hpass v ((passes.clean_sublist c.writes).subset hv))
        rwa [Write.prim?_eq_none_iff, Write.register_reduced]
      simp [packPrim_of_forall (b := { name := name, writes := _ }) hplain]
    · simp
  · rw [htag, if_pos hpass]
    set rest := (passes.clean c.writes).map Write.reduced
    have hpack := packPrim_of_split (b := { name := name, writes := [] ++ .prim p.reduced :: rest })
      rfl rfl (by simp)
    simp only [List.nil_append] at hpack
    simp [hpack]

/-- What separates a dead store, said of the writes before and behind the setting. -/
lemma separatesDeadStore_iff {pre post : List Write} (htag : c.tagPrim.isSome = true)
    (hindex : c.primIndex = pre.length) (hwrites : c.writes = pre ++ post) :
    c.SeparatesDeadStore ↔
      ∃ w ∈ pre.getLast?, ∃ next ∈ post.head?, w.deadBefore next = true := by
  have hbehind : (pre ++ post)[pre.length]? = post.head? := by
    rw [List.getElem?_append_right (le_refl _), Nat.sub_self, List.head?_eq_getElem?]
  rw [SeparatesDeadStore, hindex, hwrites, Int.toNat_natCast, hbehind]
  by_cases hpre : pre = []
  · simp [hpre]
  · have hpos : 0 < pre.length := List.length_pos_iff.mpr hpre
    have hbefore : (pre ++ post)[pre.length - 1]? = pre.getLast? := by
      rw [List.getElem?_append_left (by omega), List.getLast?_eq_getElem?]
    rw [hbefore]
    constructor
    · rintro ⟨-, -, -, w, next, hw, hnext, hreg, hplain⟩
      refine ⟨w, hw, next, hnext, ?_⟩
      rw [Write.deadBefore, hplain, hreg]
      simp
    · rintro ⟨w, hw, next, hnext, hdead⟩
      have hpost : 0 < post.length := by
        cases post with
        | nil => simp at hnext
        | cons v post => simp
      simp only [Write.deadBefore, Bool.and_eq_true, Bool.not_eq_true', beq_iff_eq] at hdead
      refine ⟨htag, by omega, ?_, w, next, hw, hnext, hdead.2, hdead.1⟩
      rw [List.length_append]
      omega

/-- **The passes find something more to drop** exactly if the setting separated a dead store. -/
lemma clean_writes_iff (hb : b.tagPrim = none) (hc : b.optimized passes = c) :
    passes.clean c.writes = c.writes ↔
      ¬ (passes.has .deadStores = true ∧ passes.has .tagPrim = true ∧ c.SeparatesDeadStore) := by
  rcases optimized_inv hb hc with
    ⟨htag, hclean, -⟩ | ⟨pre, p, post, hpass, htag, hindex, hwrites, -, hclean⟩
  · simp [hclean, SeparatesDeadStore, htag]
  · by_cases hdead : passes.has .deadStores = true
    · simp only [Passes.clean, if_pos hdead] at hclean ⊢
      have hchain : NoDeadStore (pre ++ .prim p :: post) := (survivors_eq_self_iff _).mp hclean
      obtain ⟨hpre, hbehind, -⟩ := List.isChain_append.mp hchain
      have hpost : NoDeadStore post := (List.isChain_cons.mp hbehind).2
      rw [survivors_eq_self_iff, hwrites, separatesDeadStore_iff (by simp [htag]) hindex hwrites]
      constructor
      · rintro hjoined ⟨-, -, w, hw, next, hnext, hdeadStore⟩
        have hlive := (List.isChain_append.mp hjoined).2.2 w hw next hnext
        rw [hlive] at hdeadStore
        cases hdeadStore
      · intro hnone
        refine List.isChain_append.mpr ⟨hpre, hpost, fun w hw next hnext => ?_⟩
        rw [Bool.eq_false_iff]
        exact fun hdeadStore => hnone ⟨hdead, hpass, w, hw, next, hnext, hdeadStore⟩
    · simp [Passes.clean, hdead]

end Block

/-! ## All blocks -/

lemma length_wordsToBytes_packetWords (f : Block → Block) (bs : List Block) :
    (wordsToBytes (bs.flatMap fun b => (f b).packetWords)).length
      = 8 * (bs.map fun b => 2 * (1 + (f b).writes.length)).sum := by
  simp only [length_wordsToBytes, List.length_flatMap, Block.length_packetWords]

/-- Dropping anything from any block is noticed in the bytes. -/
lemma wordsToBytes_clean_iff (passes : Passes) (bs : List Block) :
    wordsToBytes (bs.flatMap fun b => (b.cleaned passes).packetWords)
        = wordsToBytes (bs.flatMap Block.packetWords) ↔
      ∀ b ∈ bs, passes.clean b.writes = b.writes := by
  have hle : ∀ b : Block, (passes.clean b.writes).length ≤ b.writes.length :=
    fun b => (passes.clean_sublist b.writes).length_le
  constructor
  · intro h
    by_contra hne
    push Not at hne
    obtain ⟨b, hb, hchanged⟩ := hne
    have hlt : (passes.clean b.writes).length < b.writes.length := by
      refine lt_of_le_of_ne (hle b) fun hlength => hchanged ?_
      exact (passes.clean_sublist b.writes).eq_of_length hlength
    have hshorter : (bs.map fun b => 2 * (1 + (passes.clean b.writes).length)).sum
        < (bs.map fun b => 2 * (1 + b.writes.length)).sum := by
      refine List.sum_lt_sum _ _ (fun c _ => ?_) ⟨b, hb, ?_⟩
      · have := hle c
        omega
      · omega
    have hlength := congrArg List.length h
    rw [length_wordsToBytes_packetWords (Block.cleaned passes),
      length_wordsToBytes_packetWords fun b => b] at hlength
    simp only [Block.cleaned] at hlength
    omega
  · intro h
    refine congrArg wordsToBytes (List.flatMap_congr fun b hb => ?_)
    rw [Block.cleaned, h b hb]

/-- **What is written for a trace as packets.** -/
lemma writeTrace_packets {passes : Passes} {canceled : Bool} (mode : EmitMode) (name : String)
    (wrap : Fault → Fault) {t : Trace} {m : Machine} {bs : List Block} (hfault : t.fault = none)
    (hrun : Machine.run passes {} t.events = some (m, bs)) (hcanceled : canceled = true → bs = [])
    (hcounted : ∀ b ∈ bs, b.writes.length ≤ Tag.maxLoops) :
    let out := writeTrace { target := .packets, mode := mode, passes := passes } canceled name wrap
      t {}
    out.1.result = .ok (bs.map Block.name) ∧
      out.2.contents = wordsToBytes (bs.flatMap Block.packetWords) := by
  intro out
  rw [← printed_packets]
  exact writeTrace_of_run rfl hfault hrun hcanceled fun b hb => body_packets (hcounted b hb)

lemma Block.length_le_of_body {b : Block} {body : Bytes} (h : Format.packets.body b = .ok body) :
    b.writes.length ≤ Tag.maxLoops := by
  by_contra hlong
  simp [Format.body, words, tag, hlong, Except.map] at h

/-- What is known of the blocks that have been written as packets. -/
lemma packable_of_run {passes : Passes} {es : List Event} {m : Machine} {bs : List Block}
    (hrun : Machine.run passes {} es = some (m, bs)) {b : Block} (hb : b ∈ bs)
    (hcounted : b.writes.length ≤ Tag.maxLoops) :
    b.Packable ∧ b.executed ≠ [] ∧ ∀ w ∈ b.executed, w.Scriptable := by
  obtain ⟨⟨hne, -⟩, hscriptable, -⟩ := rebuilt_of_run hrun hb
  have hmem : ∀ w, w ∈ b.executed ↔ w ∈ b.unpackedWrites := fun w => b.executed_perm.mem_iff
  have hexecuted : ∀ w ∈ b.executed, w.Scriptable := fun w hw => hscriptable w ((hmem w).mp hw)
  have hdecodable : ∀ w ∈ b.executed, w.reduced.Decodable := fun w hw =>
    Write.decodable_of_named (hexecuted w hw).reduced.1
  refine ⟨⟨hcounted, fun p hp => ?_, fun w hw => ?_⟩, ?_, hexecuted⟩
  · exact hdecodable _ (List.mem_append_left _ (List.mem_map_of_mem (Option.mem_toList.mpr hp)))
  · exact hdecodable w (List.mem_append_right _ hw)
  · intro hnil
    exact hne (List.perm_nil.mp (hnil ▸ b.executed_perm).symm)

/-- The block that a packet is taken apart to, as it is described. -/
lemma rebuilt_block_packet {b : Block} (hb : ∀ w ∈ b.executed, w.Scriptable) (offset : Nat) :
    (b.packet offset).block.rebuilt
      = { name := blockName offset, writes := b.executed.map Write.reduced } := by
  have hsame : (b.executed.map Write.reduced).map Write.withoutAlpha
      = b.executed.map Write.reduced := by
    rw [List.map_map]
    exact List.map_congr_left fun w hw => (hb w hw).reduced.2
  rw [Block.rebuilt, Block.unpackedWrites_block_packet, hsame]
  rfl

/-- **The packets of packed blocks, compiled again.** -/
lemma packetWords_recompiled {passes : Passes} {bs : List Block}
    (hbs : ∀ b ∈ bs, b.rebuilt.optimized passes = b ∧ ∀ w ∈ b.executed, w.Scriptable) :
    (packetsFrom 0 bs).flatMap (fun p => (p.block.rebuilt.optimized passes).packetWords)
      = bs.flatMap fun b => (b.cleaned passes).packetWords := by
  rw [List.flatMap_def, List.flatMap_def]
  refine congrArg List.flatten (map_packetsFrom (fun b hb offset => ?_) 0)
  obtain ⟨hclean, hscriptable⟩ := hbs b hb
  obtain ⟨htag, hwrites⟩ := Block.optimized_executed rfl hclean (blockName offset)
  rw [rebuilt_block_packet hscriptable]
  exact Block.packetWords_of_reduced (b := b.cleaned passes) htag hwrites

lemma length_writes_recompiled_le {passes : Passes} {b : Block}
    (hb : b.rebuilt.optimized passes = b) (hscriptable : ∀ w ∈ b.executed, w.Scriptable)
    (offset : Nat) :
    ((b.packet offset).block.rebuilt.optimized passes).writes.length ≤ b.writes.length := by
  obtain ⟨-, hwrites⟩ := Block.optimized_executed rfl hb (blockName offset)
  rw [rebuilt_block_packet hscriptable, hwrites, List.length_map]
  exact (passes.clean_sublist b.writes).length_le

/-- **The second run**: packed blocks are taken apart and printed as a script. -/
lemma disassembleTo_packetWords {bs : List Block} {canceled : Bool}
    (hbs : ∀ b ∈ bs, b.Packable ∧ b.executed ≠ [] ∧ ∀ w ∈ b.executed, w.Scriptable)
    (hcanceled : canceled = true → bs = []) (passes : Passes) (mode : EmitMode) (name : String) :
    let script := disassembleTo { target := .script, mode := mode, passes := passes } canceled name
      (wordsToBytes (bs.flatMap Block.packetWords)) .complete {}
    let ds := (packetsFrom 0 bs).map fun p => p.block.rebuilt.optimized passes
    script.1.result = .ok (ds.map Block.name) ∧
      script.2.contents = printed .script (ds.map scriptBytes) ∧
      (∃ m es, Machine.run passes {} es = some (m, ds)) ∧ ∀ d ∈ ds, IsName d.name := by
  intro script ds
  obtain ⟨hfault, hevents⟩ := trace_disassemble fun b hb => (hbs b hb).1
  have hrebuildable : ∀ c ∈ (packetsFrom 0 bs).map Packet.block, c.Rebuildable := by
    intro c hc
    obtain ⟨p, hp, rfl⟩ := List.mem_map.mp hc
    obtain ⟨b, hb, hpacket, -⟩ := exists_of_mem_packetsFrom hp
    obtain ⟨-, hne, hscriptable⟩ := hbs b hb
    rw [hpacket]
    constructor
    · rw [Block.unpackedWrites_block_packet]
      simpa using hne
    · rw [Block.unpackedWrites_block_packet]
      intro w hw
      obtain ⟨v, hv, rfl⟩ := List.mem_map.mp hw
      exact (hscriptable v hv).reduced.1
  obtain ⟨m, hrun⟩ := run_rebuilt hrebuildable (nodup_names_packetsFrom 0 bs) passes
  rw [List.map_map] at hrun
  have hcanceled' : canceled = true → ds = [] := by
    intro h
    simp [ds, hcanceled h, packetsFrom]
  rw [← hevents] at hrun
  obtain ⟨hnames, hcontents⟩ : script.1.result = .ok (ds.map Block.name) ∧
      script.2.contents = printed .script (ds.map scriptBytes) :=
    writeTrace_of_run rfl hfault hrun hcanceled' fun _ _ => rfl
  refine ⟨hnames, hcontents, ⟨m, _, hrun⟩, fun d hd => ?_⟩
  obtain ⟨p, -, rfl⟩ := List.mem_map.mp hd
  rw [Block.optimized_name]
  exact isName_blockName p.offset

/-- **The third run**: printed blocks are compiled and written as packets. -/
lemma compileTo_printed (passes : Passes) {passes₂ : Passes} {canceled : Bool} {m : Machine}
    {es : List Event} {ds : List Block} (hrun : Machine.run passes₂ {} es = some (m, ds))
    (hnames : ∀ d ∈ ds, IsName d.name) (hcanceled : canceled = true → ds = [])
    (hcounted : ∀ d ∈ ds, (d.rebuilt.optimized passes).writes.length ≤ Tag.maxLoops)
    (mode : EmitMode) (name : String) :
    let again := compileTo { target := .packets, mode := mode, passes := passes } canceled
      (.ofBytes name (printed .script (ds.map scriptBytes)) .complete) {}
    (∃ names, again.1.result = .ok names) ∧
      again.2.contents
        = wordsToBytes (ds.flatMap fun d => (d.rebuilt.optimized passes).packetWords) := by
  intro again
  have hrebuildable : ∀ d ∈ ds, d.Rebuildable := fun d hd => (rebuilt_of_run hrun hd).1
  obtain ⟨hfault, hevents⟩ := trace_printed name fun d hd =>
    ⟨hnames d hd, (hrebuildable d hd).named⟩
  obtain ⟨m', hrun'⟩ := run_rebuilt hrebuildable (nodup_names_of_run hrun) passes
  rw [← hevents] at hrun'
  have hcanceled' : canceled = true → ds.map (fun d => d.rebuilt.optimized passes) = [] := by
    intro h
    rw [hcanceled h, List.map_nil]
  have hcounted' : ∀ e ∈ ds.map (fun d => d.rebuilt.optimized passes),
      e.writes.length ≤ Tag.maxLoops := by
    intro e he
    obtain ⟨d, hd, rfl⟩ := List.mem_map.mp he
    exact hcounted d hd
  obtain ⟨hresult, hcontents⟩ :=
    writeTrace_packets mode name id hfault hrun' hcanceled' hcounted'
  refine ⟨⟨_, hresult⟩, ?_⟩
  rw [List.flatMap_map] at hcontents
  exact hcontents

/-- **Binary round trip.**  If a script can be written as packets, then these can be taken apart to
a script, with or without a setting moved into the tag, and that script can be written as packets
with the passes of the first time.  The bytes are the same exactly if it is not the case that both
passes are chosen and the setting of some block separates a dead store. -/
theorem compileTo_disassembleTo (passes passes₂ : Passes)
    (hpasses₂ : passes₂ = .none ∨ passes₂ = .tagPrim) (canceled : Bool) (mode mode₂ : EmitMode)
    (s : Source) (names : List String)
    (h : (compileTo { target := .packets, mode := mode, passes := passes } canceled s {}).1.result
      = .ok names) (binaryName scriptName : String) :
    let config : Config := { target := .packets, mode := mode, passes := passes }
    let binary := (compileTo config canceled s {}).2.contents
    let script := disassembleTo { target := .script, mode := mode₂, passes := passes₂ } canceled
      binaryName binary .complete {}
    let again := compileTo config canceled (.ofBytes scriptName script.2.contents .complete) {}
    (∃ names, script.1.result = .ok names) ∧ (∃ names, again.1.result = .ok names) ∧
      ∃ bs, (compile passes canceled s).result = .ok bs ∧ bs.map Block.name = names ∧
        (again.2.contents = binary ↔
          ¬ (passes.has .deadStores = true ∧ passes.has .tagPrim = true ∧
            ∃ b ∈ bs, b.SeparatesDeadStore)) := by
  intro config binary script again
  have hformat : config.target.format config.mode = .ok .packets := rfl
  obtain ⟨hfault, m, bs, hrun, hcanceled, hbody⟩ := run_of_writeTrace hformat h
  have hcounted : ∀ b ∈ bs, b.writes.length ≤ Tag.maxLoops := by
    intro b hb
    obtain ⟨body, hbody⟩ := hbody b hb
    exact Block.length_le_of_body hbody
  have hclean : ∀ b ∈ bs, b.rebuilt.optimized passes = b := fun b hb => (rebuilt_of_run hrun hb).2.2
  have hpackable := fun b (hb : b ∈ bs) => packable_of_run hrun hb (hcounted b hb)
  obtain ⟨hnames, hbinary⟩ : (compileTo config canceled s {}).1.result = .ok (bs.map Block.name) ∧
      binary = wordsToBytes (bs.flatMap Block.packetWords) :=
    writeTrace_packets mode s.name id hfault hrun hcanceled hcounted
  obtain ⟨hscript, htext, ⟨m₂, es, hrun₂⟩, hisName⟩ :=
    disassembleTo_packetWords hpackable hcanceled passes₂ mode₂ binaryName
  rw [← hbinary] at hscript htext
  set ds := (packetsFrom 0 bs).map fun p => p.block.rebuilt.optimized passes₂ with hds
  have hcanceled₂ : canceled = true → ds = [] := by
    intro h
    simp [hds, hcanceled h, packetsFrom]
  -- What the script describes is what the packets describe: its own passes have dropped nothing.
  have hkept : passes₂.has .deadStores = false := by
    rcases hpasses₂ with rfl | rfl <;> decide
  have hcounted₂ : ∀ d ∈ ds, (d.rebuilt.optimized passes).writes.length ≤ Tag.maxLoops := by
    intro d hd
    obtain ⟨p, hp, rfl⟩ := List.mem_map.mp hd
    obtain ⟨b, hb, hpacket, -⟩ := exists_of_mem_packetsFrom hp
    rw [rebuilt_optimized_rebuilt hkept, hpacket]
    have hshorter := length_writes_recompiled_le (hclean b hb) (hpackable b hb).2.2 p.offset
    exact le_trans hshorter (hcounted b hb)
  have hwords : ds.flatMap (fun d => (d.rebuilt.optimized passes).packetWords)
      = bs.flatMap fun b => (b.cleaned passes).packetWords := by
    simp only [hds, List.flatMap_map, rebuilt_optimized_rebuilt hkept]
    exact packetWords_recompiled fun b hb => ⟨hclean b hb, (hpackable b hb).2.2⟩
  obtain ⟨hagain, hbytes⟩ :=
    compileTo_printed passes hrun₂ hisName hcanceled₂ hcounted₂ mode scriptName
  rw [← htext] at hagain hbytes
  refine ⟨⟨_, hscript⟩, hagain, bs, compile_eq_ok_iff.mpr ⟨hfault, ⟨m, hrun⟩, hcanceled⟩, ?_, ?_⟩
  · rw [hnames] at h
    exact Except.ok.inj h
  · have hbytes : again.2.contents = _ := hbytes
    rw [hbytes, hwords, hbinary, wordsToBytes_clean_iff]
    constructor
    · rintro hsame ⟨hdead, htag, b, hb, hseparates⟩
      exact (Block.clean_writes_iff rfl (hclean b hb)).mp (hsame b hb) ⟨hdead, htag, hseparates⟩
    · intro hnone b hb
      refine (Block.clean_writes_iff rfl (hclean b hb)).mpr ?_
      rintro ⟨hdead, htag, hseparates⟩
      exact hnone ⟨hdead, htag, b, hb, hseparates⟩

/-- A script in which the setting stands between two writes to one register, and a coordinate does
not fit into its field. -/
def Source.separated : Source where
  name := "separated"
  text := "separated { fog 1; prim sprite; fog 2; xyz2 0x1001,2,3; }".toList

/-- The block of that script. -/
def Source.separatedBlock : Block where
  name := "separated"
  tagPrim := some { topology := .sprite }
  primIndex := 1
  writes := [.fog 1, .fog 2, .xyz2 ⟨0x1001, 2, 3⟩]

/-- With both passes the bytes come back different. -/
theorem compileTo_disassembleTo_separated :
    (compileTo { target := .packets, passes := .all } false .separated {}).1.result
        = .ok ["separated"] ∧
      let binary :=
        (compileTo { target := .packets, passes := .all } false .separated {}).2.contents
      let script := disassembleTo { target := .script, passes := .tagPrim } false "separated.bin"
        binary .complete {}
      let again := compileTo { target := .packets, passes := .all } false
        (.ofBytes "separated.gs" script.2.contents .complete) {}
      (∃ names, script.1.result = .ok names) ∧ (∃ names, again.1.result = .ok names) ∧
        again.2.contents ≠ binary := by
  have hcompile : (compile .all false .separated).result = .ok [Source.separatedBlock] :=
    compile_of_evaluated (by decide +kernel) (by decide +kernel)
  obtain ⟨hfault, ⟨m, hrun⟩, hcanceled⟩ := compile_eq_ok_iff.mp hcompile
  have h : (compileTo { target := .packets, passes := .all } false .separated {}).1.result
      = .ok ["separated"] :=
    (writeTrace_packets .defs "separated" id hfault hrun hcanceled (by decide)).1
  obtain ⟨hscript, hagain, bs, hbs, -, hiff⟩ := compileTo_disassembleTo .all .tagPrim (.inr rfl)
    false .defs .defs .separated _ h "separated.bin" "separated.gs"
  refine ⟨h, hscript, hagain, fun hsame => hiff.mp hsame ⟨by decide, by decide, ?_⟩⟩
  rw [hcompile] at hbs
  obtain rfl := Except.ok.inj hbs
  refine ⟨_, List.mem_singleton_self _, rfl, by decide, by decide, .fog 1, .fog 2, ?_⟩
  exact ⟨rfl, rfl, rfl, rfl⟩

end RegisterScript
