import Mathlib.Data.List.Chain
import Mathlib.Tactic
import RegisterScript.Optimize

/-!
# What the clean-up passes leave of a block

The dead-store pass is a loop that keeps a list of writes and remembers whether the newest of them
may still be dropped.  This file says what comes out of it without the loop, and does the same for
the pass that moves a primitive setting into the tag.

**Dead stores.**  `survivors` looks at each write and the one behind it, nothing else.  The loop
computes it (`run_fst_eq_survivors`); a list is left alone exactly if no write in it is dead before
its successor (`survivors_eq_self_iff`), and the result is always such a list
(`noDeadStore_survivors`).

**Tag setting.**  `packPrim_of_split` and `packPrim_of_forall` are the two cases of the pass: a
first primitive setting with what stands before and behind it, or no primitive setting at all.
`optimized_cases` says the same of both passes together.

Both passes look at the registers of the writes only; `survivors_map` says so for the first.
-/

namespace RegisterScript

/-! ## Dead stores -/

/-- Whether `w` has no effect if `next` comes right behind it. -/
def Write.deadBefore (w next : Write) : Bool :=
  !w.register.hasSideEffects && w.register == next.register

/-- The writes that are not dead before their successor. -/
def survivors : List Write → List Write
  | [] => []
  | [w] => [w]
  | w :: next :: rest =>
    if w.deadBefore next then survivors (next :: rest) else w :: survivors (next :: rest)

/-- No write of the list is dead before its successor. -/
def NoDeadStore (ws : List Write) : Prop :=
  ws.IsChain fun w next => w.deadBefore next = false

lemma survivors_cons_of_sideEffects {w : Write} (h : w.register.hasSideEffects = true)
    (ws : List Write) : survivors (w :: ws) = w :: survivors ws := by
  cases ws with
  | nil => rfl
  | cons next rest => simp [survivors, Write.deadBefore, h]

lemma survivors_cons_cons_of_ne {w next : Write} (h : w.register ≠ next.register)
    (ws : List Write) : survivors (w :: next :: ws) = w :: survivors (next :: ws) := by
  simp [survivors, Write.deadBefore, h]

lemma survivors_cons_cons_of_dead {w next : Write} (h : w.deadBefore next = true)
    (ws : List Write) : survivors (w :: next :: ws) = survivors (next :: ws) := by
  simp [survivors, h]

namespace DeadStores

/-- The newest kept write, if it may still be dropped. -/
def pending (s : DeadStores) : List Write := if s.isOpen then s.kept.take 1 else []

/-- The kept writes that will not be dropped any more, newest first. -/
def settled (s : DeadStores) : List Write := if s.isOpen then s.kept.drop 1 else s.kept

/-- A write that may still be dropped has no side effects. -/
def Sound (s : DeadStores) : Prop := ∀ w ∈ s.pending, w.register.hasSideEffects = false

lemma kept_eq (s : DeadStores) : s.kept = s.pending ++ s.settled := by
  rw [pending, settled]
  split
  · exact (List.take_append_drop 1 s.kept).symm
  · rfl

/-- After a step the newest write is the pending one, unless it has side effects. -/
lemma pending_step (s : DeadStores) (w : Write) :
    (s.step w).pending = if w.register.hasSideEffects then [] else [w] := by
  obtain ⟨kept, isOpen, dropped⟩ := s
  by_cases hw : w.register.hasSideEffects = true
  · simp [step, pending, hw]
  · cases isOpen with
    | false => simp [step, pending, hw]
    | true =>
        cases kept with
        | nil => simp [step, pending, hw]
        | cons last earlier =>
            by_cases heq : last.register = w.register <;> simp [step, pending, hw, heq]

lemma sound_initial : Sound {} := by
  intro w hw
  simp [pending] at hw

lemma sound_step (s : DeadStores) (w : Write) : (s.step w).Sound := by
  intro v hv
  rw [pending_step] at hv
  split_ifs at hv with hw
  · simp at hv
  · rw [List.mem_singleton.mp hv]
    exact Bool.eq_false_iff.mpr hw

/-- **One step of the loop.**  What is settled, followed by what the pass would make of the pending
write and the writes to come, does not change. -/
lemma settled_step {s : DeadStores} (hs : s.Sound) (w : Write) (ws : List Write) :
    (s.step w).settled.reverse ++ survivors ((s.step w).pending ++ ws)
      = s.settled.reverse ++ survivors (s.pending ++ w :: ws) := by
  obtain ⟨kept, isOpen, dropped⟩ := s
  by_cases hw : w.register.hasSideEffects = true
  · have hstep : step ⟨kept, isOpen, dropped⟩ w = ⟨w :: kept, false, dropped⟩ := by
      simp [step, hw]
    rw [hstep]
    cases isOpen with
    | false => simp [settled, pending, survivors_cons_of_sideEffects hw]
    | true =>
        cases kept with
        | nil => simp [settled, pending, survivors_cons_of_sideEffects hw]
        | cons last earlier =>
            have hlast : last.register.hasSideEffects = false := hs last (by simp [pending])
            have hne : last.register ≠ w.register := by
              intro h
              rw [h, hw] at hlast
              cases hlast
            simp [settled, pending, survivors_cons_cons_of_ne hne,
              survivors_cons_of_sideEffects hw]
  · cases isOpen with
    | false => simp [step, settled, pending, hw]
    | true =>
        cases kept with
        | nil => simp [step, settled, pending, hw]
        | cons last earlier =>
            have hlast : last.register.hasSideEffects = false := hs last (by simp [pending])
            by_cases heq : last.register = w.register
            · have hdead : last.deadBefore w = true := by
                rw [Write.deadBefore, hlast, heq]
                simp
              simp [step, settled, pending, hw, heq, survivors_cons_cons_of_dead hdead]
            · simp [step, settled, pending, hw, heq, survivors_cons_cons_of_ne heq]

lemma foldl_step_kept {s : DeadStores} (hs : s.Sound) (ws : List Write) :
    (ws.foldl step s).kept.reverse = s.settled.reverse ++ survivors (s.pending ++ ws) := by
  induction ws generalizing s with
  | nil =>
      rw [List.foldl_nil, kept_eq, List.append_nil, List.reverse_append]
      congr 1
      -- at most one write is pending, and a single write survives
      rw [pending]
      split
      · cases s.kept <;> rfl
      · rfl
  | cons w ws ih =>
      rw [List.foldl_cons, ih (sound_step s w), settled_step hs]

/-- **The loop keeps exactly the writes that are not dead before their successor.** -/
theorem run_fst_eq_survivors (ws : List Write) : (run ws).1 = survivors ws := by
  simpa [run, scan, pending, settled] using foldl_step_kept sound_initial ws

end DeadStores

lemma survivors_ne_nil {ws : List Write} (h : ws ≠ []) : survivors ws ≠ [] := by
  fun_induction survivors ws with
  | case1 => exact h
  | case2 w => simp
  | case3 w next rest _ ih => exact ih (by simp)
  | case4 w next rest _ _ => simp

/-- The write at the head of the result goes to the register of the write at the head. -/
lemma head?_survivors (ws : List Write) :
    (survivors ws).head?.map Write.register = ws.head?.map Write.register := by
  fun_induction survivors ws with
  | case1 => rfl
  | case2 w => rfl
  | case3 w next rest hdead ih =>
      rw [ih]
      simp only [Write.deadBefore, Bool.and_eq_true, beq_iff_eq] at hdead
      simp [hdead.2]
  | case4 w next rest _ _ => rfl

lemma deadBefore_of_ne {w v : Write} (h : w.register ≠ v.register) : w.deadBefore v = false := by
  simp [Write.deadBefore, h]

lemma deadBefore_congr {w v v' : Write} (h : v.register = v'.register) :
    w.deadBefore v = w.deadBefore v' := by
  simp [Write.deadBefore, h]

lemma noDeadStore_survivors (ws : List Write) : NoDeadStore (survivors ws) := by
  fun_induction survivors ws with
  | case1 => exact List.isChain_nil
  | case2 w => exact List.isChain_singleton w
  | case3 w next rest _ ih => exact ih
  | case4 w next rest hdead ih =>
      refine List.isChain_cons.mpr ⟨fun v hv => ?_, ih⟩
      have hreg : v.register = next.register := by
        have hhead := head?_survivors (next :: rest)
        rw [Option.mem_def.mp hv] at hhead
        simpa using hhead
      rw [deadBefore_congr hreg]
      exact Bool.eq_false_iff.mpr hdead

lemma survivors_sublist (ws : List Write) : (survivors ws).Sublist ws := by
  fun_induction survivors ws with
  | case1 => exact List.Sublist.refl _
  | case2 w => exact List.Sublist.refl _
  | case3 w next rest _ ih => exact ih.cons w
  | case4 w next rest _ ih => exact ih.cons_cons w

/-- **A list is left alone exactly if nothing in it is dead.** -/
theorem survivors_eq_self_iff (ws : List Write) : survivors ws = ws ↔ NoDeadStore ws := by
  constructor
  · intro h
    rw [← h]
    exact noDeadStore_survivors ws
  · intro h
    fun_induction survivors ws with
    | case1 => rfl
    | case2 w => rfl
    | case3 w next rest hdead ih =>
        have hkeep := (List.isChain_cons_cons.mp h).1
        rw [hdead] at hkeep
        cases hkeep
    | case4 w next rest _ ih => rw [ih (List.isChain_cons_cons.mp h).2]

/-- The pass looks at registers only. -/
lemma survivors_map {f : Write → Write} (hf : ∀ w, (f w).register = w.register)
    (ws : List Write) : survivors (ws.map f) = (survivors ws).map f := by
  have hdead : ∀ w v : Write, (f w).deadBefore (f v) = w.deadBefore v := by
    intro w v
    simp [Write.deadBefore, hf]
  fun_induction survivors ws with
  | case1 => rfl
  | case2 w => rfl
  | case3 w next rest h ih => simpa [survivors, hdead, h] using ih
  | case4 w next rest h ih => simpa [survivors, hdead, h] using ih

/-! ## Tag setting -/

@[simp] lemma Write.prim?_prim (p : Prim) : (Write.prim p).prim? = some p := rfl

lemma Write.prim?_eq_none_iff (w : Write) : w.prim? = none ↔ w.register ≠ .prim := by
  cases w <;> simp [Write.prim?, Write.register]

/-- A list has no primitive setting, or it has a first one. -/
lemma exists_first_prim (ws : List Write) :
    (∀ w ∈ ws, w.prim? = none) ∨
      ∃ pre p post, ws = pre ++ .prim p :: post ∧ ∀ w ∈ pre, w.prim? = none := by
  induction ws with
  | nil => exact Or.inl (by simp)
  | cons w ws ih =>
      cases hw : w.prim? with
      | some p =>
          refine Or.inr ⟨[], p, ws, ?_, by simp⟩
          cases w <;> simp_all [Write.prim?]
      | none =>
          rcases ih with hall | ⟨pre, p, post, rfl, hpre⟩
          · exact Or.inl (List.forall_mem_cons.mpr ⟨hw, hall⟩)
          · exact Or.inr ⟨w :: pre, p, post, rfl, List.forall_mem_cons.mpr ⟨hw, hpre⟩⟩

namespace Block

lemma packPrim_of_forall {b : Block} (h : ∀ w ∈ b.writes, w.prim? = none) :
    b.packPrim = (b, []) := by
  have hidx : b.writes.findIdx? (·.prim?.isSome) = none := by
    rw [List.findIdx?_eq_none_iff]
    intro w hw
    simp [h w hw]
  rw [packPrim, hidx]
  cases b.tagPrim <;> rfl

lemma packPrim_of_split {b : Block} (hb : b.tagPrim = none) {pre post : List Write} {p : Prim}
    (hws : b.writes = pre ++ .prim p :: post) (hpre : ∀ w ∈ pre, w.prim? = none) :
    b.packPrim = ({ b with tagPrim := some p, primIndex := pre.length, writes := pre ++ post },
      [.packedPrim]) := by
  have hidx : b.writes.findIdx? (·.prim?.isSome) = some pre.length := by
    have hnone : pre.findIdx? (·.prim?.isSome) = none := by
      rw [List.findIdx?_eq_none_iff]
      intro w hw
      simp [hpre w hw]
    rw [hws, List.findIdx?_append, hnone, List.findIdx?_cons]
    simp
  have hfind : b.writes.findSome? Write.prim? = some p := by
    have hnone : pre.findSome? Write.prim? = none := List.findSome?_eq_none_iff.mpr hpre
    rw [hws, List.findSome?_append, hnone, List.findSome?_cons]
    rfl
  have herase : b.writes.eraseIdx pre.length = pre ++ post := by
    rw [hws, List.eraseIdx_append_of_length_le (le_refl _)]
    simp
  rw [packPrim, hb, hidx, hfind]
  simp [herase]

end Block

/-! ## Both passes -/

/-- What is left of a list of writes when the dead-store pass is run if it is chosen. -/
def Passes.clean (passes : Passes) (ws : List Write) : List Write :=
  if passes.has .deadStores then survivors ws else ws

lemma Passes.clean_clean (passes : Passes) (ws : List Write) :
    passes.clean (passes.clean ws) = passes.clean ws := by
  simp only [clean]
  split
  · exact (survivors_eq_self_iff _).mpr (noDeadStore_survivors ws)
  · rfl

lemma Passes.clean_ne_nil (passes : Passes) {ws : List Write} (h : ws ≠ []) :
    passes.clean ws ≠ [] := by
  rw [clean]
  split
  · exact survivors_ne_nil h
  · exact h

lemma Passes.clean_sublist (passes : Passes) (ws : List Write) : (passes.clean ws).Sublist ws := by
  rw [clean]
  split
  · exact survivors_sublist ws
  · exact List.Sublist.refl ws

lemma Passes.clean_map (passes : Passes) {f : Write → Write}
    (hf : ∀ w, (f w).register = w.register) (ws : List Write) :
    passes.clean (ws.map f) = (passes.clean ws).map f := by
  rw [clean, clean]
  split
  · exact survivors_map hf ws
  · rfl

namespace Block

/-- The block that is left, without the remarks. -/
def optimized (passes : Passes) (b : Block) : Block := (b.optimize passes).1

lemma optimized_eq (passes : Passes) (b : Block) :
    b.optimized passes = if passes.has .tagPrim
      then ({ b with writes := passes.clean b.writes } : Block).packPrim.1
      else { b with writes := passes.clean b.writes } := by
  rw [optimized, optimize, dropDeadStores, Passes.clean]
  split_ifs <;> simp [DeadStores.run_fst_eq_survivors]

@[simp] lemma packPrim_name (b : Block) : b.packPrim.1.name = b.name := by
  rw [packPrim.eq_def]
  split <;> rfl

@[simp] lemma optimized_name (passes : Passes) (b : Block) :
    (b.optimized passes).name = b.name := by
  rw [optimized_eq]
  split <;> simp

/-- **Both passes on a block without a tag setting.**  Either nothing moves, or the first of the
primitive settings that the dead-store pass leaves moves into the tag. -/
theorem optimized_cases (passes : Passes) {b : Block} (hb : b.tagPrim = none) :
    (b.optimized passes = { b with writes := passes.clean b.writes } ∧
        (passes.has .tagPrim = true → ∀ w ∈ passes.clean b.writes, w.prim? = none)) ∨
      ∃ pre p post, passes.has .tagPrim = true ∧ passes.clean b.writes = pre ++ .prim p :: post ∧
        (∀ w ∈ pre, w.prim? = none) ∧
        b.optimized passes
          = { b with tagPrim := some p, primIndex := pre.length, writes := pre ++ post } := by
  by_cases hpass : passes.has .tagPrim = true
  · rcases exists_first_prim (passes.clean b.writes) with hall | ⟨pre, p, post, hws, hpre⟩
    · left
      rw [optimized_eq, if_pos hpass, packPrim_of_forall hall]
      exact ⟨rfl, fun _ => hall⟩
    · right
      have hpack := packPrim_of_split (b := { b with writes := passes.clean b.writes }) hb hws hpre
      refine ⟨pre, p, post, hpass, hws, hpre, ?_⟩
      rw [optimized_eq, if_pos hpass, hpack]
  · left
    rw [optimized_eq, if_neg hpass]
    exact ⟨rfl, fun h => absurd h hpass⟩

/-- The writes of a block in the order in which they take effect; the tag comes first. -/
def executed (b : Block) : List Write := b.tagPrim.toList.map .prim ++ b.writes

lemma executed_eq_writes {b : Block} (hb : b.tagPrim = none) : b.executed = b.writes := by
  simp [executed, hb]

lemma executed_perm (b : Block) : b.executed.Perm b.unpackedWrites := by
  cases h : b.tagPrim with
  | none => simp [executed, unpackedWrites, h]
  | some p =>
      have hmiddle : (b.writes.take b.primIndex.toNat
          ++ .prim p :: b.writes.drop b.primIndex.toNat).Perm
          (.prim p :: (b.writes.take b.primIndex.toNat ++ b.writes.drop b.primIndex.toNat)) :=
        List.perm_middle
      rw [List.take_append_drop] at hmiddle
      simpa [executed, unpackedWrites, h] using hmiddle.symm

/-- **Putting the tag's setting back undoes the second pass.** -/
lemma unpackedWrites_packPrim {b : Block} (hb : b.tagPrim = none) :
    b.packPrim.1.unpackedWrites = b.writes := by
  rcases exists_first_prim b.writes with hall | ⟨pre, p, post, hws, hpre⟩
  · rw [packPrim_of_forall hall]
    simp [unpackedWrites, hb]
  · rw [packPrim_of_split hb hws hpre, hws]
    simp [unpackedWrites]

lemma unpackedWrites_optimized (passes : Passes) {b : Block} (hb : b.tagPrim = none) :
    (b.optimized passes).unpackedWrites = passes.clean b.writes := by
  rw [optimized_eq]
  split
  · exact unpackedWrites_packPrim hb
  · simp [unpackedWrites, hb]

/-- **Cleaning up a cleaned-up block, printed out in full, gives the same block.** -/
theorem optimized_unpackedWrites (passes : Passes) (name : String) (ws : List Write) :
    let b := ({ name := name, writes := ws } : Block).optimized passes
    ({ name := name, writes := b.unpackedWrites } : Block).optimized passes = b := by
  simp only
  rw [unpackedWrites_optimized passes rfl, optimized_eq, optimized_eq]
  simp only [Passes.clean_clean]

end Block

end RegisterScript
