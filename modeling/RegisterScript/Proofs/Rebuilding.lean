import RegisterScript.Proofs.Expansion

/-!
# Rebuilding blocks from their writes

A block that has been printed or packed comes back as events, one statement for each write.  Those
are the events of a program without macros, so what the machine makes of them is known already: the
writes themselves, apart from a texture's own alpha, cleaned up once more (`run_rebuilt`).

Blocks that come from a machine lose nothing on that way: they have no such texture, and cleaning
them up again changes nothing (`rebuilt_of_run`).
-/

namespace RegisterScript

namespace Block

/-- The events that rebuild a block, the tag's setting among them where it stood. -/
def events (b : Block) : List Event :=
  .startBlock b.name :: (b.unpackedWrites.flatMap Write.events ++ [.close])

/-- The definition that these are the events of. -/
def definition (b : Block) : Definition where
  kind := .block
  name := b.name
  body := b.unpackedWrites.map fun w => .register w.register.address w.arguments

/-- The block that is described: everything among the writes, and no texture with its own alpha. -/
def rebuilt (b : Block) : Block where
  name := b.name
  writes := b.unpackedWrites.map Write.withoutAlpha

/-- A block that can be described. -/
structure Rebuildable (b : Block) : Prop where
  nonempty : b.unpackedWrites ≠ []
  named : ∀ w ∈ b.unpackedWrites, w.Named

lemma events_definition (b : Block) : b.definition.events = b.events := by
  have hstatement : ∀ w : Write,
      (Statement.register w.register.address w.arguments).events = w.events := fun w => by
    rw [Statement.events, Write.events, Write.fillEvents_eq]
  simp only [Definition.events, definition, ContainerKind.startEvent, events, List.flatMap_map,
    hstatement]

end Block

lemma expand_register {w : Write} (hw : w.Named) (macros : Macros) :
    Statement.expand macros (.register w.register.address w.arguments) = [w.withoutAlpha] := by
  obtain ⟨d, hd, hcomplete⟩ := Draft.fill?_arguments hw
  simp [Statement.expand, Statement.draft?, Register.ofAddress?_address, hd, hcomplete]

lemma fills_register {w : Write} (hw : w.Named) :
    Statement.Fills w.register.address w.arguments := by
  obtain ⟨d, hd, hcomplete⟩ := Draft.fill?_arguments hw
  exact ⟨w.register, d, w.register.ofAddress?_address, hd, by simp [Draft.ready, hcomplete]⟩

lemma block?_definition {b : Block} (hb : b.Rebuildable) (macros : Macros) :
    b.definition.block? macros = some b.rebuilt := by
  have hexpand : b.definition.expand macros = b.unpackedWrites.map Write.withoutAlpha := by
    rw [Definition.expand, Block.definition, List.flatMap_map, List.map_eq_flatMap]
    exact List.flatMap_congr fun w hw => expand_register (hb.named w hw) macros
  rw [Definition.block?, hexpand]
  rfl

lemma expansionFrom_definitions {bs : List Block} (hbs : ∀ b ∈ bs, b.Rebuildable)
    (macros : Macros) :
    Program.expansionFrom macros (bs.map Block.definition) = bs.map Block.rebuilt := by
  induction bs with
  | nil => rfl
  | cons b bs ih =>
      rw [List.map_cons, Program.expansionFrom, block?_definition (hbs b (by simp))]
      have hdefine : b.definition.define macros = macros := rfl
      rw [hdefine, ih fun b' hb' => hbs b' (by simp [hb'])]
      rfl

lemma wellFormed_definitions {bs : List Block} (hbs : ∀ b ∈ bs, b.Rebuildable)
    (hnames : (bs.map Block.name).Nodup) : Program.WellFormed (bs.map Block.definition) where
  distinct := by
    rw [List.map_map]
    exact hnames
  nonempty {d} hd := by
    obtain ⟨b, hb, rfl⟩ := List.mem_map.mp hd
    simpa [Block.definition] using (hbs b hb).nonempty
  filled {d} hd address arguments hst := by
    obtain ⟨b, hb, rfl⟩ := List.mem_map.mp hd
    obtain ⟨w, hw, hst⟩ := List.mem_map.mp hst
    obtain ⟨rfl, rfl⟩ := Statement.register.inj hst
    exact fills_register ((hbs b hb).named w hw)
  resolved {before after d} hp name offset hst := by
    -- There are no insertions.
    have hd : d ∈ bs.map Block.definition := by simp [hp]
    obtain ⟨b, -, rfl⟩ := List.mem_map.mp hd
    simp [Block.definition] at hst

/-- Described blocks are accepted, and the machine knows their names. -/
lemma holds_rebuilt {bs : List Block} (hbs : ∀ b ∈ bs, b.Rebuildable)
    (hnames : (bs.map Block.name).Nodup) (passes : Passes) :
    ∃ m, m.Holds (bs.map Block.definition) ∧ Machine.run passes {} (bs.flatMap Block.events)
      = some (m, bs.map fun b => b.rebuilt.optimized passes) := by
  obtain ⟨m, hm, hrun⟩ := Machine.run_events (wellFormed_definitions hbs hnames) passes
  refine ⟨m, hm, ?_⟩
  have hevents : Program.events (bs.map Block.definition) = bs.flatMap Block.events := by
    simp only [Program.events, List.flatMap_map, Block.events_definition]
  rw [← hevents, hrun, Program.expansion, expansionFrom_definitions hbs, List.map_map]
  rfl

/-- **Described blocks come back**, cleaned up once more. -/
theorem run_rebuilt {bs : List Block} (hbs : ∀ b ∈ bs, b.Rebuildable)
    (hnames : (bs.map Block.name).Nodup) (passes : Passes) :
    ∃ m, Machine.run passes {} (bs.flatMap Block.events)
      = some (m, bs.map fun b => b.rebuilt.optimized passes) := by
  obtain ⟨m, -, hrun⟩ := holds_rebuilt hbs hnames passes
  exact ⟨m, hrun⟩

/-- **A block that a machine has handed over** can be described, by writes that a script can ask
for, and comes back as it is. -/
theorem rebuilt_of_run {passes : Passes} {es : List Event} {m : Machine} {bs : List Block}
    (h : Machine.run passes {} es = some (m, bs)) {b : Block} (hb : b ∈ bs) :
    b.Rebuildable ∧ (∀ w ∈ b.unpackedWrites, w.Scriptable) ∧ b.rebuilt.optimized passes = b := by
  obtain ⟨-, ws, hne, hscriptable, hblock⟩ := Machine.exists_writes_of_mem h hb
  have hunpacked : b.unpackedWrites = passes.clean ws := by
    rw [hblock]
    exact Block.unpackedWrites_optimized passes rfl
  have hwrites : ∀ w ∈ b.unpackedWrites, w.Scriptable := by
    rw [hunpacked]
    exact fun w hw => hscriptable w ((passes.clean_sublist ws).subset hw)
  have hsame : b.unpackedWrites.map Write.withoutAlpha = b.unpackedWrites := by
    conv_rhs => rw [← List.map_id b.unpackedWrites]
    exact List.map_congr_left fun w hw => (hwrites w hw).2
  refine ⟨⟨?_, fun w hw => (hwrites w hw).1⟩, hwrites, ?_⟩
  · rw [hunpacked]
    exact passes.clean_ne_nil hne
  · have hround := Block.optimized_unpackedWrites passes b.name ws
    simp only [← hblock] at hround
    rw [Block.rebuilt, hsame]
    exact hround

lemma Write.withoutAlpha_withoutAlpha (w : Write) :
    w.withoutAlpha.withoutAlpha = w.withoutAlpha := by
  cases w <;> rfl

/-- Describing a block a second time changes nothing, if no dead stores were dropped between. -/
lemma rebuilt_optimized_rebuilt {passes : Passes} (h : passes.has .deadStores = false) (b : Block) :
    (b.rebuilt.optimized passes).rebuilt = b.rebuilt := by
  have hclean : (b.rebuilt.optimized passes).unpackedWrites = b.rebuilt.writes := by
    rw [Block.unpackedWrites_optimized passes rfl, Passes.clean, h]
    rfl
  rw [Block.rebuilt, hclean, Block.optimized_name]
  simp [Block.rebuilt, Function.comp_def, Write.withoutAlpha_withoutAlpha]

lemma nodup_names_of_run {passes : Passes} {es : List Event} {m : Machine} {bs : List Block}
    (h : Machine.run passes {} es = some (m, bs)) : (bs.map Block.name).Nodup := by
  rw [Machine.map_name_eq_closedBlocks h]
  exact (Machine.run_induction (P := fun _ _ _ => True) trivial (by simp) h).1.nodup_closedBlocks

end RegisterScript
