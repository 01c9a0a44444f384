import Mathlib.Data.List.FinRange
import RegisterScript.Log.Logger
import RegisterScript.Proofs.CleanUp

/-!
# Which positions the dead-store pass drops

The pass never looks at a position: it keeps a list that grows at one end, and takes the newest
write off again when the next one overwrites it.  This file says which positions of the original
list are in the result, and that the others, and only they, are reported as dropped.

**Positions.**  `TakesEffect` looks at a position and at the one behind it.  A choice that looks no
further can be made by recursion on the list (`chosen`), and `chosen_eq_map_filter` says which
positions it takes.

**What is dropped.**  `deadStores` is the choice opposite to `survivors`.  One step of the loop
reports the pending write if the new one overwrites it (`dropped_step`), and so the whole run
reports the dead stores in their order (`run_snd_eq_deadStores`).
-/

namespace RegisterScript

/-! ## Positions -/

/-- The write at a position has an effect of its own: it has side effects, it is the last one, or
the write behind it goes to another register. -/
def TakesEffect (ws : List Write) (i : Fin ws.length) : Prop :=
  (ws.get i).register.hasSideEffects = true ∨ i.val + 1 = ws.length ∨
    ∃ h : i.val + 1 < ws.length, (ws.get ⟨i.val + 1, h⟩).register ≠ (ws.get i).register

instance (ws : List Write) : DecidablePred (TakesEffect ws) := fun _ =>
  inferInstanceAs (Decidable (_ ∨ _ ∨ _))

/-- The writes of a list that pass a test on them and on what stands behind them. -/
def chosen (p : Write → Option Write → Bool) : List Write → List Write
  | [] => []
  | w :: ws => if p w ws.head? then w :: chosen p ws else chosen p ws

/-- **A choice by successors is a choice of positions.** -/
lemma chosen_eq_map_filter (p : Write → Option Write → Bool) (ws : List Write) :
    chosen p ws
      = ((List.finRange ws.length).filter fun i => p (ws.get i) ws[i.val + 1]?).map ws.get := by
  induction ws with
  | nil => rfl
  | cons w ws ih =>
      have hfirst : p ((w :: ws).get 0) (w :: ws)[(0 : Fin (ws.length + 1)).val + 1]?
          = p w ws.head? := by
        simp [List.head?_eq_getElem?]
      have hrest : (((List.finRange ws.length).map Fin.succ).filter fun i =>
            p ((w :: ws).get i) (w :: ws)[i.val + 1]?).map (w :: ws).get = chosen p ws := by
        rw [ih, List.filter_map, List.map_map]
        rfl
      change chosen p (w :: ws) = ((List.finRange (ws.length + 1)).filter fun i =>
        p ((w :: ws).get i) (w :: ws)[i.val + 1]?).map (w :: ws).get
      rw [chosen, List.finRange_succ, List.filter_cons, hfirst]
      split_ifs
      · rw [List.map_cons, hrest]
        rfl
      · exact hrest.symm

/-! ## What is dropped -/

/-- The writes that are dead before their successor. -/
def deadStores (ws : List Write) : List Write :=
  chosen (fun w next => next.any w.deadBefore) ws

lemma survivors_eq_chosen (ws : List Write) :
    survivors ws = chosen (fun w next => !next.any w.deadBefore) ws := by
  fun_induction survivors ws with
  | case1 => rfl
  | case2 w => rfl
  | case3 w next rest hdead ih =>
      rw [chosen, ← ih]
      simp [hdead]
  | case4 w next rest hdead ih =>
      rw [chosen, ← ih]
      simp [hdead]

lemma Write.deadBefore_eq_false_iff {w next : Write} :
    w.deadBefore next = false ↔
      w.register.hasSideEffects = true ∨ next.register ≠ w.register := by
  rw [deadBefore, Bool.and_eq_false_iff, Bool.not_eq_false', beq_eq_false_iff_ne, ne_comm]

/-- A write takes effect exactly if it is not dead before its successor. -/
lemma takesEffect_iff (ws : List Write) (i : Fin ws.length) :
    TakesEffect ws i ↔ ws[i.val + 1]?.any (ws.get i).deadBefore = false := by
  rw [TakesEffect]
  by_cases hlast : i.val + 1 < ws.length
  · have hne : i.val + 1 ≠ ws.length := hlast.ne
    have hnext : ws[i.val + 1]? = some (ws.get ⟨i.val + 1, hlast⟩) :=
      List.getElem?_eq_getElem hlast
    rw [hnext, Option.any_some, Write.deadBefore_eq_false_iff]
    simp only [hne, hlast, exists_true_left, false_or]
  · have heq : i.val + 1 = ws.length := by omega
    simp [heq]

/-- The positions of the writes that are left. -/
lemma survivors_eq_map_filter (ws : List Write) :
    survivors ws = ((List.finRange ws.length).filter fun i => TakesEffect ws i).map ws.get := by
  rw [survivors_eq_chosen, chosen_eq_map_filter]
  simp only [takesEffect_iff, Bool.decide_eq_false]

/-- The positions of the dead stores. -/
lemma deadStores_eq_map_filter (ws : List Write) :
    deadStores ws = ((List.finRange ws.length).filter fun i => ¬ TakesEffect ws i).map ws.get := by
  rw [deadStores, chosen_eq_map_filter]
  simp only [takesEffect_iff, Bool.not_eq_false, Bool.decide_eq_true]

lemma deadStores_nil : deadStores [] = [] := rfl

lemma deadStores_singleton (w : Write) : deadStores [w] = [] := rfl

lemma deadStores_cons_cons (w next : Write) (ws : List Write) :
    deadStores (w :: next :: ws)
      = [w].filter (·.deadBefore next) ++ deadStores (next :: ws) := by
  rw [deadStores, chosen]
  cases h : w.deadBefore next <;> simp [h, deadStores]

lemma deadStores_cons_of_sideEffects {w : Write} (h : w.register.hasSideEffects = true)
    (ws : List Write) : deadStores (w :: ws) = deadStores ws := by
  cases ws with
  | nil => rfl
  | cons next ws => simp [deadStores_cons_cons, Write.deadBefore, h]

lemma deadStores_eq_nil_iff (ws : List Write) : deadStores ws = [] ↔ NoDeadStore ws := by
  induction ws with
  | nil => simp [NoDeadStore, deadStores_nil]
  | cons w ws ih =>
      cases ws with
      | nil => simp [NoDeadStore, deadStores_singleton]
      | cons next ws =>
          rw [deadStores_cons_cons, List.append_eq_nil_iff, ih, NoDeadStore, NoDeadStore,
            List.isChain_cons_cons]
          simp

namespace DeadStores

lemma pending_cases (s : DeadStores) : s.pending = [] ∨ ∃ w, s.pending = [w] := by
  rw [pending]
  split
  · cases s.kept with
    | nil => exact .inl rfl
    | cons w kept => exact .inr ⟨w, rfl⟩
  · exact .inl rfl

/-- **One step of the loop** reports the pending write if the new one overwrites it. -/
lemma dropped_step {s : DeadStores} (hs : s.Sound) (w : Write) :
    (s.step w).dropped = (s.pending.filter (·.deadBefore w)).map Write.register ++ s.dropped := by
  obtain ⟨kept, isOpen, dropped⟩ := s
  cases isOpen with
  | false => by_cases hw : w.register.hasSideEffects = true <;> simp [step, pending, hw]
  | true =>
      cases kept with
      | nil => by_cases hw : w.register.hasSideEffects = true <;> simp [step, pending, hw]
      | cons last earlier =>
          have hlast : last.register.hasSideEffects = false := hs last (by simp [pending])
          by_cases heq : last.register = w.register
          · have hw : w.register.hasSideEffects = false := heq ▸ hlast
            simp [step, pending, Write.deadBefore, hw, heq]
          · have hdead : last.deadBefore w = false := deadBefore_of_ne heq
            by_cases hw : w.register.hasSideEffects = true <;>
              simp [step, pending, hw, heq, hdead]

/-- The registers reported by the rest of the loop are those of the dead stores among the pending
write and the writes to come. -/
lemma foldl_step_dropped {s : DeadStores} (hs : s.Sound) (ws : List Write) :
    (ws.foldl step s).dropped.reverse
      = s.dropped.reverse ++ (deadStores (s.pending ++ ws)).map Write.register := by
  induction ws generalizing s with
  | nil =>
      rcases s.pending_cases with hpending | ⟨w, hpending⟩
      · simp [hpending, deadStores_nil]
      · simp [hpending, deadStores_singleton]
  | cons w ws ih =>
      have hnew : deadStores ((s.step w).pending ++ ws) = deadStores (w :: ws) := by
        rw [pending_step]
        split_ifs with hw
        · exact (deadStores_cons_of_sideEffects hw ws).symm
        · rfl
      rw [List.foldl_cons, ih (sound_step s w), hnew, dropped_step hs]
      -- At most one write is pending, so the order within one step's report does not matter.
      rcases s.pending_cases with hpending | ⟨last, hpending⟩
      · simp [hpending]
      · cases hdead : last.deadBefore w <;> simp [hpending, deadStores_cons_cons, hdead]

/-- **The loop reports exactly the dead stores.** -/
theorem run_snd_eq_deadStores (ws : List Write) :
    (run ws).2 = (deadStores ws).map fun w => .deadStore w.register := by
  have hdropped := foldl_step_dropped sound_initial ws
  simp only [List.reverse_nil, List.nil_append] at hdropped
  rw [run, scan, hdropped, List.map_map]
  rfl

/-- The line that a logger shows for a dropped write. -/
lemma renderNote_deadStore (log : Logger) (r : Register) :
    log.renderNote { remark := .deadStore r }
      = log.line .info ("dead store elimination: " ++ r.name) := by
  change (if log.enabled .info then log.line .info ("dead store elimination: " ++ r.name) else "")
    = _
  split_ifs with hshown
  · rfl
  · rw [Logger.line, if_neg hshown]

/-- **What the dead-store pass does.**  It keeps the writes at the positions that take effect and
reports one dead store for each of the others, by its register, both in the order of the list; a
logger shows one line for each report.  Run again, the pass keeps everything and reports nothing.
Something is left unless there was nothing. -/
theorem run_positions (ws : List Write) :
    (run ws).1 = ((List.finRange ws.length).filter fun i => TakesEffect ws i).map ws.get ∧
    (run ws).2 = ((List.finRange ws.length).filter fun i => ¬ TakesEffect ws i).map
      (fun i => .deadStore (ws.get i).register) ∧
    (∀ log : Logger, log.render ((run ws).2.map fun r => { remark := r }) =
      String.join (((List.finRange ws.length).filter fun i => ¬ TakesEffect ws i).map fun i =>
        log.line .info ("dead store elimination: " ++ (ws.get i).register.name))) ∧
    run (run ws).1 = ((run ws).1, []) ∧
    ((run ws).1 = [] ↔ ws = []) := by
  have hkept := run_fst_eq_survivors ws
  have hreported := run_snd_eq_deadStores ws
  rw [deadStores_eq_map_filter, List.map_map] at hreported
  refine ⟨hkept.trans (survivors_eq_map_filter ws), hreported, ?_, ?_, ?_⟩
  · intro log
    rw [hreported, Logger.render, List.map_map, List.map_map]
    exact congrArg (fun line => String.join (List.map line _))
      (funext fun i => renderNote_deadStore log (ws.get i).register)
  · have hclean := noDeadStore_survivors ws
    have hkeep := (survivors_eq_self_iff _).mpr hclean
    have hquiet := (deadStores_eq_nil_iff _).mpr hclean
    rw [hkept]
    refine Prod.ext ?_ ?_
    · rw [run_fst_eq_survivors, hkeep]
    · rw [run_snd_eq_deadStores, hquiet, List.map_nil]
  · rw [hkept]
    constructor
    · exact not_imp_not.mp survivors_ne_nil
    · rintro rfl
      rfl

end DeadStores

end RegisterScript
