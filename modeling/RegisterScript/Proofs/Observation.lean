import RegisterScript.Proofs.CleanUp

/-!
# What a block draws

A block is worth what the hardware makes of it.  Here the hardware is a register file: every write
stores itself under its register, and a write with side effects is observed, together with
everything that it can depend on, the contents of the registers without side effects.  A setting in
the tag takes effect before the first write.

* `RegisterFile`, with `store` and `run`; `Observation` and `RegisterFile.observations`.

**What the passes keep.**  Dropping dead stores changes neither the final file nor anything that is
observed (`run_survivors`, `observations_survivors`).  Moving the first primitive setting into the
tag keeps the final file as well, since the setting passes only writes to other registers
(`run_store_comm`); but whatever is observed before it now sees the setting too early.
`optimize_executed` puts this together: what is observed stays the same for every register file
exactly if nothing is observed before the setting that moves.
-/

namespace RegisterScript

/-- The contents of all registers; each register holds a write of its own. -/
structure RegisterFile where
  content : Register → Write
  register_content : ∀ r, (content r).register = r

namespace RegisterFile

@[ext] lemma ext {f g : RegisterFile} (h : ∀ r, f.content r = g.content r) : f = g := by
  obtain ⟨_, _⟩ := f
  obtain ⟨_, _⟩ := g
  simp only [mk.injEq]
  exact funext h

/-- The file after a write. -/
def store (f : RegisterFile) (w : Write) : RegisterFile where
  content r := if r = w.register then w else f.content r
  register_content r := by
    split
    · rename_i h
      exact h.symm
    · exact f.register_content r

/-- The file after a list of writes. -/
def run (f : RegisterFile) (ws : List Write) : RegisterFile := ws.foldl store f

/-- The contents of the registers without side effects. -/
def setting (f : RegisterFile) : { r : Register // r.hasSideEffects = false } → Write :=
  fun r => f.content r

end RegisterFile

/-- A write with side effects, and what it finds when it takes effect. -/
structure Observation where
  write : Write
  setting : { r : Register // r.hasSideEffects = false } → Write

namespace RegisterFile

/-- What is observed of a list of writes, in order. -/
def observations (f : RegisterFile) : List Write → List Observation
  | [] => []
  | w :: ws =>
    if w.register.hasSideEffects then ⟨w, f.setting⟩ :: (f.store w).observations ws
    else (f.store w).observations ws

end RegisterFile

/-! ## Storing and observing -/

namespace RegisterFile

@[simp] lemma run_nil (f : RegisterFile) : f.run [] = f := rfl

@[simp] lemma run_cons (f : RegisterFile) (w : Write) (ws : List Write) :
    f.run (w :: ws) = (f.store w).run ws := rfl

lemma run_append (f : RegisterFile) (ws vs : List Write) :
    f.run (ws ++ vs) = (f.run ws).run vs := List.foldl_append

@[simp] lemma observations_nil (f : RegisterFile) : f.observations [] = [] := rfl

lemma observations_cons_of_plain (f : RegisterFile) {w : Write}
    (h : w.register.hasSideEffects = false) (ws : List Write) :
    f.observations (w :: ws) = (f.store w).observations ws := by
  simp [observations, h]

lemma observations_cons_of_sideEffects (f : RegisterFile) {w : Write}
    (h : w.register.hasSideEffects = true) (ws : List Write) :
    f.observations (w :: ws) = ⟨w, f.setting⟩ :: (f.store w).observations ws := by
  simp [observations, h]

lemma observations_append (f : RegisterFile) (ws vs : List Write) :
    f.observations (ws ++ vs) = f.observations ws ++ (f.run ws).observations vs := by
  induction ws generalizing f with
  | nil => rfl
  | cons w ws ih =>
      rw [List.cons_append, run_cons]
      by_cases hw : w.register.hasSideEffects = true
      · rw [observations_cons_of_sideEffects f hw, observations_cons_of_sideEffects f hw, ih,
          List.cons_append]
      · have hw' := Bool.eq_false_iff.mpr hw
        rw [observations_cons_of_plain f hw', observations_cons_of_plain f hw', ih]

/-- A write replaces the one before it to the same register. -/
lemma store_store (f : RegisterFile) {w v : Write} (h : w.register = v.register) :
    (f.store w).store v = f.store v := by
  ext r
  by_cases hr : r = v.register <;> simp [store, h, hr]

lemma store_comm (f : RegisterFile) {w v : Write} (h : w.register ≠ v.register) :
    (f.store w).store v = (f.store v).store w := by
  ext r
  by_cases hw : r = w.register
  · subst hw
    simp [store, h]
  · simp [store, hw]

/-- A write passes any number of writes to other registers. -/
lemma run_store_comm (f : RegisterFile) {w : Write} {ws : List Write}
    (h : ∀ v ∈ ws, v.register ≠ w.register) : (f.store w).run ws = (f.run ws).store w := by
  induction ws generalizing f with
  | nil => rfl
  | cons v ws ih =>
      have hv := h v List.mem_cons_self
      rw [run_cons, run_cons, store_comm f hv.symm,
        ih _ fun u hu => h u (List.mem_cons_of_mem v hu)]

lemma observations_eq_nil (f : RegisterFile) {ws : List Write}
    (h : ∀ w ∈ ws, w.register.hasSideEffects = false) : f.observations ws = [] := by
  induction ws generalizing f with
  | nil => rfl
  | cons w ws ih =>
      rw [observations_cons_of_plain f (h w List.mem_cons_self)]
      exact ih _ fun v hv => h v (List.mem_cons_of_mem w hv)

/-! ## Dead stores -/

lemma run_survivors (f : RegisterFile) (ws : List Write) : f.run (survivors ws) = f.run ws := by
  fun_induction survivors ws generalizing f with
  | case1 => rfl
  | case2 w => rfl
  | case3 w next rest hdead ih =>
      simp only [Write.deadBefore, Bool.and_eq_true, beq_iff_eq] at hdead
      rw [ih, run_cons, run_cons, run_cons, store_store f hdead.2]
  | case4 w next rest _ ih => rw [run_cons f w, run_cons f w, ih]

lemma observations_survivors (f : RegisterFile) (ws : List Write) :
    f.observations (survivors ws) = f.observations ws := by
  fun_induction survivors ws generalizing f with
  | case1 => rfl
  | case2 w => rfl
  | case3 w next rest hdead ih =>
      simp only [Write.deadBefore, Bool.and_eq_true, Bool.not_eq_true', beq_iff_eq] at hdead
      have hnext : next.register.hasSideEffects = false := hdead.2 ▸ hdead.1
      rw [ih, observations_cons_of_plain f hdead.1, observations_cons_of_plain f hnext,
        observations_cons_of_plain (f.store w) hnext, store_store f hdead.2]
  | case4 w next rest _ ih =>
      by_cases hw : w.register.hasSideEffects = true
      · rw [observations_cons_of_sideEffects f hw, observations_cons_of_sideEffects f hw, ih]
      · have hw' := Bool.eq_false_iff.mpr hw
        rw [observations_cons_of_plain f hw', observations_cons_of_plain f hw', ih]

lemma run_clean (f : RegisterFile) (passes : Passes) (ws : List Write) :
    f.run (passes.clean ws) = f.run ws := by
  rw [Passes.clean]
  split
  · exact run_survivors f ws
  · rfl

lemma observations_clean (f : RegisterFile) (passes : Passes) (ws : List Write) :
    f.observations (passes.clean ws) = f.observations ws := by
  rw [Passes.clean]
  split
  · exact observations_survivors f ws
  · rfl

end RegisterFile

/-! ## The setting that moves into the tag -/

/-- Something is observed before the first primitive setting. -/
def ObservedBeforePrim (ws : List Write) : Prop :=
  ∃ w ∈ ws.takeWhile (fun w => w.register ≠ .prim), w.register.hasSideEffects = true

lemma observedBeforePrim_cons {w : Write} {ws : List Write} :
    ObservedBeforePrim (w :: ws) ↔
      w.register ≠ .prim ∧ (w.register.hasSideEffects = true ∨ ObservedBeforePrim ws) := by
  by_cases hw : w.register = .prim <;> simp [ObservedBeforePrim, hw]

/-- Dead stores make no difference to whether something is observed before the first primitive
setting: only another primitive setting can make one of them dead. -/
lemma observedBeforePrim_survivors (ws : List Write) :
    ObservedBeforePrim (survivors ws) ↔ ObservedBeforePrim ws := by
  fun_induction survivors ws with
  | case1 => rfl
  | case2 w => rfl
  | case3 w next rest hdead ih =>
      simp only [Write.deadBefore, Bool.and_eq_true, Bool.not_eq_true', beq_iff_eq] at hdead
      rw [ih, observedBeforePrim_cons (w := w), observedBeforePrim_cons]
      rw [hdead.2, ← hdead.2, hdead.1, hdead.2]
      simp only [Bool.false_eq_true, false_or, ← and_assoc, and_self]
  | case4 w next rest _ ih =>
      rw [observedBeforePrim_cons (w := w), observedBeforePrim_cons (w := w), ih]

lemma exists_prim_survivors (ws : List Write) :
    (∃ w ∈ survivors ws, w.register = .prim) ↔ ∃ w ∈ ws, w.register = .prim := by
  fun_induction survivors ws with
  | case1 => rfl
  | case2 w => rfl
  | case3 w next rest hdead ih =>
      simp only [Write.deadBefore, Bool.and_eq_true, beq_iff_eq] at hdead
      rw [ih]
      simp [hdead.2]
  | case4 w next rest _ ih =>
      rw [List.exists_mem_cons_iff _ w, List.exists_mem_cons_iff _ w, ih]

/-- Two different primitive settings, so that no setting is the only one. -/
lemma exists_prim_ne (p : Prim) : ∃ q : Prim, q ≠ p := by
  refine ⟨{ p with gouraud := !p.gouraud }, fun h => ?_⟩
  have hg := congrArg Prim.gouraud h
  simp at hg

namespace RegisterFile

/-- A register file with a chosen primitive setting. -/
def withPrim (p : Prim) : RegisterFile where
  content
    | .prim => .prim p
    | .rgbaq => .rgbaq default
    | .uv => .uv default
    | .xyz2 => .xyz2 default
    | .tex0 => .tex0 default
    | .fog => .fog 0
    | .fogcol => .fogcol default
    | .scissor => .scissor default
    | .signal => .signal 0 0
    | .finish => .finish 0
    | .label => .label 0 0
  register_content r := by cases r <;> rfl

/-- What is observed of writes that set no primitive tells apart two files with different
primitive settings, as soon as anything is observed at all. -/
lemma observations_ne_of_prim_ne {f g : RegisterFile} {ws : List Write}
    (hfg : f.content .prim ≠ g.content .prim) (hws : ∀ w ∈ ws, w.register ≠ .prim)
    (hobs : ∃ w ∈ ws, w.register.hasSideEffects = true) :
    f.observations ws ≠ g.observations ws := by
  induction ws generalizing f g with
  | nil => simp at hobs
  | cons w ws ih =>
      have hwp := hws w List.mem_cons_self
      by_cases hw : w.register.hasSideEffects = true
      · rw [observations_cons_of_sideEffects f hw, observations_cons_of_sideEffects g hw]
        intro h
        have hset : f.setting = g.setting := congrArg Observation.setting (List.cons.inj h).1
        exact hfg (congrFun hset ⟨.prim, rfl⟩)
      · have hw' := Bool.eq_false_iff.mpr hw
        rw [observations_cons_of_plain f hw', observations_cons_of_plain g hw']
        refine ih ?_ (fun v hv => hws v (List.mem_cons_of_mem w hv)) ?_
        · simpa [store, hwp.symm] using hfg
        · simpa [hw'] using hobs

variable {pre post : List Write} {p : Prim}

/-- Moving a primitive setting in front of writes to other registers keeps the final file. -/
lemma run_hoist (f : RegisterFile) (hpre : ∀ w ∈ pre, w.register ≠ .prim) :
    f.run (.prim p :: (pre ++ post)) = f.run (pre ++ .prim p :: post) := by
  rw [run_cons, run_append, run_append, run_cons, run_store_comm f hpre]

/-- **When a primitive setting may move to the front.**  What is observed stays the same for every
register file exactly if nothing is observed on the way. -/
lemma observations_hoist_iff (hpre : ∀ w ∈ pre, w.register ≠ .prim) :
    (∀ f : RegisterFile,
        f.observations (.prim p :: (pre ++ post)) = f.observations (pre ++ .prim p :: post)) ↔
      ∀ w ∈ pre, w.register.hasSideEffects = false := by
  have hplain : (Write.prim p).register.hasSideEffects = false := rfl
  -- behind the setting both sides observe the same; only what comes before it can differ
  have hsplit : ∀ f : RegisterFile,
      f.observations (.prim p :: (pre ++ post)) = f.observations (pre ++ .prim p :: post) ↔
        (f.store (.prim p)).observations pre = f.observations pre := by
    intro f
    rw [observations_cons_of_plain f hplain, observations_append, observations_append,
      observations_cons_of_plain _ hplain, run_store_comm f hpre]
    exact List.append_left_inj _
  simp only [hsplit]
  constructor
  · intro h w hw
    by_contra hne
    obtain ⟨q, hq⟩ := exists_prim_ne p
    refine observations_ne_of_prim_ne (f := (withPrim q).store (.prim p)) (g := withPrim q)
      ?_ hpre ⟨w, hw, Bool.eq_true_of_not_eq_false hne⟩ (h _)
    simpa [store, withPrim, Write.register] using hq.symm
  · intro h f
    rw [observations_eq_nil _ h, observations_eq_nil _ h]

end RegisterFile

/-! ## Both passes -/

namespace Block

/-- Both passes on a block without a tag setting, from what the dead-store pass leaves of its
writes: either nothing moves, or the first primitive setting moves to the front. -/
lemma executed_optimized (passes : Passes) {b : Block} (hb : b.tagPrim = none) :
    ((b.optimized passes).executed = passes.clean b.writes ∧
        ¬ (passes.has .tagPrim = true ∧ ∃ w ∈ passes.clean b.writes, w.register = .prim)) ∨
      ∃ pre p post, passes.has .tagPrim = true ∧ passes.clean b.writes = pre ++ .prim p :: post ∧
        (∀ w ∈ pre, w.register ≠ .prim) ∧
        (b.optimized passes).executed = .prim p :: (pre ++ post) := by
  rcases optimized_cases passes hb with ⟨hsame, hnone⟩ | ⟨pre, p, post, hpass, hws, hpre, hmoved⟩
  · left
    rw [hsame]
    refine ⟨executed_eq_writes hb, ?_⟩
    rintro ⟨hpass, w, hw, hreg⟩
    exact (Write.prim?_eq_none_iff w).mp (hnone hpass w hw) hreg
  · right
    rw [hmoved]
    exact ⟨pre, p, post, hpass, hws, fun w hw => (Write.prim?_eq_none_iff w).mp (hpre w hw), rfl⟩

lemma run_executed_optimized (passes : Passes) {b : Block} (hb : b.tagPrim = none)
    (f : RegisterFile) : f.run (b.optimized passes).executed = f.run b.executed := by
  rw [executed_eq_writes hb, ← f.run_clean passes b.writes]
  rcases executed_optimized passes hb with ⟨hsame, -⟩ | ⟨pre, p, post, -, hws, hpre, hexec⟩
  · rw [hsame]
  · rw [hexec, hws]
    exact f.run_hoist hpre

lemma observedBeforePrim_clean (passes : Passes) (ws : List Write) :
    ObservedBeforePrim (passes.clean ws) ↔ ObservedBeforePrim ws := by
  rw [Passes.clean]
  split
  · exact observedBeforePrim_survivors ws
  · rfl

lemma exists_prim_clean (passes : Passes) (ws : List Write) :
    (∃ w ∈ passes.clean ws, w.register = .prim) ↔ ∃ w ∈ ws, w.register = .prim := by
  rw [Passes.clean]
  split
  · exact exists_prim_survivors ws
  · rfl

lemma observedBeforePrim_append {pre post : List Write} {p : Prim}
    (hpre : ∀ w ∈ pre, w.register ≠ .prim) :
    ObservedBeforePrim (pre ++ .prim p :: post) ↔ ∃ w ∈ pre, w.register.hasSideEffects = true := by
  have hfront : (pre ++ .prim p :: post).takeWhile (fun w => w.register ≠ .prim) = pre := by
    rw [List.takeWhile_append_of_pos (by simpa using hpre)]
    simp [Write.register]
  rw [ObservedBeforePrim, hfront]

/-- **What the passes keep of a block.**  Whatever was in the registers before, the block leaves
the same in them afterwards; and what is observed on the way is the same for every register file
exactly if it is not the case that the tag pass is chosen, the block has a primitive setting, and
something is observed before the first one. -/
theorem optimize_executed (passes : Passes) (b : Block) (hb : b.tagPrim = none) :
    (∀ f : RegisterFile, f.run (b.optimize passes).1.executed = f.run b.executed) ∧
      ((∀ f : RegisterFile,
          f.observations (b.optimize passes).1.executed = f.observations b.executed) ↔
        ¬ (passes.has .tagPrim = true ∧ (∃ w ∈ b.writes, w.register = .prim) ∧
          ∃ w ∈ b.writes.takeWhile (fun w => w.register ≠ .prim),
            w.register.hasSideEffects = true)) := by
  refine ⟨run_executed_optimized passes hb, ?_⟩
  change (∀ f : RegisterFile, f.observations (b.optimized passes).executed = _) ↔
    ¬ (_ ∧ _ ∧ ObservedBeforePrim b.writes)
  rw [← exists_prim_clean passes, ← observedBeforePrim_clean passes]
  simp only [executed_eq_writes hb, ← RegisterFile.observations_clean _ passes b.writes]
  rcases executed_optimized passes hb with ⟨hsame, hnone⟩ | ⟨pre, p, post, hpass, hws, hpre, hexec⟩
  · rw [hsame]
    simp only [implies_true, true_iff]
    exact fun h => hnone ⟨h.1, h.2.1⟩
  · rw [hexec, hws, RegisterFile.observations_hoist_iff hpre, observedBeforePrim_append hpre]
    have hprim : ∃ w ∈ pre ++ .prim p :: post, w.register = .prim :=
      ⟨.prim p, by simp, rfl⟩
    simp only [hpass, hprim, true_and, not_exists, not_and, Bool.not_eq_true]

/-- A vertex followed by the setting of the primitive that it does not belong to yet. -/
def lateSetting : Block where
  name := "late"
  writes := [.xyz2 ⟨1, 2, 3⟩, .prim { topology := .sprite }, .prim { topology := ⟨3⟩ }]

/-- Moving a late setting into the tag is noticed by the vertex in front of it. -/
theorem optimize_executed_lateSetting :
    (∀ f : RegisterFile,
        f.run (lateSetting.optimize .all).1.executed = f.run lateSetting.executed) ∧
      ¬ ∀ f : RegisterFile,
        f.observations (lateSetting.optimize .all).1.executed
          = f.observations lateSetting.executed := by
  have h := optimize_executed .all lateSetting rfl
  refine ⟨h.1, fun hobs => h.2.mp hobs ⟨by decide, ?_, ?_⟩⟩
  · exact ⟨.prim { topology := .sprite }, by decide, rfl⟩
  · exact ⟨.xyz2 ⟨1, 2, 3⟩, by decide, rfl⟩

end Block

end RegisterScript
