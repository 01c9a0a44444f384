import RegisterScript.Proofs.Expansion

/-!
# Calls that may fail

`Machine.run` ends at the first refusal.  A caller need not: any call may follow on any other,
whatever became of it, and the emitter may fail at every block that it is handed.  This file is
about such histories.

**One call.**  A refused event changes nothing, says nothing and hands nothing over
(`step_eq_refuse`).  Most operations ask before they act.  Closing does not: the machine is idle
before its block is completed, and only the invariant says that completing cannot fail then
(`Invariant.exists_complete`).

**Histories.**  `Assembly.calls` carries out events in a row, and `calls_induction` is the one
induction over them.  A call has three outcomes (`accept_cases`): it is refused, it is accepted, or
it closes a block, of which the emitter then makes what it likes.

**Results.**  `calls_invariant` for what holds after every history, `accept_fault` for what a failed
call leaves behind.
-/

namespace RegisterScript

/-! ## One call -/

/-- If the reply is an error, it is that of an operation that changes nothing. -/
def Reply.Harmless (r : Reply) (m : Machine) : Prop :=
  ∀ err, r.error = some err → r = m.refuse err

namespace Machine

variable {passes : Passes} {m m' : Machine} {e : Event}

lemma harmless_refuse (m : Machine) (err : MachineError) : (m.refuse err).Harmless m := by
  intro err' h
  cases h
  rfl

lemma harmless_of_accepted {r : Reply} (h : r.error = none) (m : Machine) : r.Harmless m := by
  intro err herr
  rw [h] at herr
  cases herr

/-- A container whose newest draft is ready can be completed. -/
lemma Invariant.exists_complete (inv : m.Invariant) {s : Slot} {c : Container}
    (hc : m.container? s = some c) (hready : c.unready? = none) : ∃ ws, c.complete = .ok ws := by
  obtain ⟨ws, hws⟩ := exists_completes (inv.allReady hc hready)
  exact ⟨ws, Container.complete_eq_ok_iff.mpr hws⟩

lemma harmless_start (m : Machine) (kind : ContainerKind) (name : String) :
    (m.start kind name).Harmless m := by
  rw [start]
  split
  · exact harmless_refuse m _
  · split
    · exact harmless_refuse m _
    · exact harmless_of_accepted rfl m

/-- Closing is accepted, or refused before anything has happened. -/
lemma close_cases (inv : m.Invariant) (passes : Passes) :
    (m.close passes).error = none ∨
      ∃ err, m.close passes = m.refuse err ∧ ∀ block r, err ≠ .incomplete block r := by
  rw [close]
  split
  · exact .inr ⟨_, rfl, by simp⟩
  · rename_i s c hcur
    split_ifs
    · exact .inr ⟨_, rfl, by simp⟩
    · split
      · exact .inr ⟨_, rfl, by simp⟩
      · rename_i hready
        -- The machine is idle from here on, so a failure would leave its mark.
        obtain ⟨ws, hws⟩ := inv.exists_complete (current?_eq_some_iff.mp hcur).2 hready
        left
        dsimp only
        split
        · rfl
        · rw [hws]

lemma harmless_close (inv : m.Invariant) (passes : Passes) : (m.close passes).Harmless m := by
  rcases close_cases inv passes with haccepted | ⟨err, hrefused, -⟩
  · exact harmless_of_accepted haccepted m
  · rw [hrefused]
    exact harmless_refuse m err

lemma harmless_select (m : Machine) (address : UInt8) : (m.select address).Harmless m := by
  rw [select]
  split
  · exact harmless_refuse m _
  · split
    · exact harmless_refuse m _
    · split
      · exact harmless_refuse m _
      · exact harmless_of_accepted rfl m

lemma harmless_push (m : Machine) (v : Operand) : (m.push v).Harmless m := by
  rw [push]
  split
  · exact harmless_refuse m _
  · split
    · exact harmless_refuse m _
    · split
      · exact harmless_refuse m _
      · exact harmless_of_accepted rfl m

lemma harmless_modify (m : Machine) (modifier : Modifier) : (m.modify modifier).Harmless m := by
  rw [modify]
  split
  · exact harmless_refuse m _
  · split
    · exact harmless_refuse m _
    · split
      · exact harmless_refuse m _
      · exact harmless_of_accepted rfl m

lemma harmless_insert (m : Machine) (name : String) (offset : Option Vec2) :
    (m.insert name offset).Harmless m := by
  rw [insert]
  split
  · exact harmless_refuse m _
  · split
    · exact harmless_refuse m _
    · split
      · split_ifs
        · exact harmless_refuse m _
        · split
          · exact harmless_refuse m _
          · exact harmless_of_accepted rfl m
      · exact harmless_refuse m _

/-- **A refused event** leaves the machine as it was, with nothing said and nothing handed over. -/
theorem step_eq_refuse (inv : m.Invariant) {err : MachineError}
    (h : (m.step passes e).error = some err) : m.step passes e = m.refuse err := by
  cases e with
  | startBlock name => exact harmless_start m .block name err h
  | startMacro name => exact harmless_start m .macroDef name err h
  | close => exact harmless_close inv passes err h
  | select address => exact harmless_select m address err h
  | push v => exact harmless_push m v err h
  | modify modifier => exact harmless_modify m modifier err h
  | insert name offset => exact harmless_insert m name offset err h

/-- What has been closed stays as it is. -/
lemma Advance.closed {b : Option Block} (h : Advance passes m e m' b) {s : Slot} {c : Container}
    (hc : m.container? s = some c) (hclosed : m.active ≠ some s) :
    m'.container? s = some c ∧ m'.active ≠ some s := by
  cases h with
  | @opened kind name _ _ =>
      -- The new container goes where there was none.
      have hne : s ≠ ⟨kind, (m.arena kind).size⟩ := by
        rintro rfl
        rw [Invariant.container?_size] at hc
        cases hc
      rw [container?_openNew, if_neg hne, active_openNew]
      exact ⟨hc, fun hact => hne (Option.some.inj hact).symm⟩
  | closedMacro _ _ _ => simpa using hc
  | closedBlock _ _ _ _ => simpa using hc
  | @filled _ s' c' ds hcur _ =>
      obtain ⟨hs', -⟩ := current?_eq_some_iff.mp hcur
      have hne : s ≠ s' := by
        rintro rfl
        exact hclosed hs'
      rw [container?_setDrafts, if_neg hne, active_setDrafts]
      exact ⟨hc, hclosed⟩

/-- A closed macro is answered with what it completes to. -/
lemma Invariant.macroWrites?_of_closed (inv : m.Invariant) {i : Nat} {c : Container}
    (hc : m.container? ⟨.macroDef, i⟩ = some c) (hclosed : m.active ≠ some ⟨.macroDef, i⟩)
    {ws : List Write} (hws : c.complete = .ok ws) : m.macroWrites? c.name = some ws :=
  macroWrites?_eq_some_iff.mpr
    ⟨i, c, inv.listed hc, hclosed, hc, Container.complete_eq_ok_iff.mp hws⟩

end Machine

/-! ## Histories -/

/-- The emitter, with a record of the blocks that it is handed, in order. -/
def Emitter.recorded {τ : Type} (emitter : Emitter τ) : Emitter (τ × List Block) where
  emit t b := (((emitter.emit t.1 b).1, t.2 ++ [b]), (emitter.emit t.1 b).2)

namespace Assembly

open Machine (Advance)

variable {τ : Type} {passes : Passes} {emitter : Emitter τ} {a : Assembly τ}

/-- The assembly after calls in a row, each of which may succeed or fail. -/
def calls (passes : Passes) (emitter : Emitter τ) (a : Assembly τ) (es : List Event) :
    Assembly τ :=
  es.foldl (fun a e => (a.accept passes emitter e).1) a

/-- **The outcomes of a call.**  It is refused and changes nothing at all; or it is accepted, and if
it closes a block, the fault is what the emitter made of that. -/
lemma accept_cases (inv : a.machine.Invariant) (passes : Passes) (emitter : Emitter τ)
    (e : Event) :
    (∃ err, a.machine.step passes e = a.machine.refuse err ∧
      a.accept passes emitter e = (a, some (.machine err))) ∨
    (∃ m notes, Advance passes a.machine e m none ∧
      a.accept passes emitter e = ({ a with machine := m, notes := notes }, none)) ∨
    ∃ m b notes, Advance passes a.machine e m (some b) ∧
      a.accept passes emitter e =
        ({ machine := m, target := (emitter.emit a.target b).1, notes := notes },
          (emitter.emit a.target b).2.2.map (.emitting b.name)) := by
  cases hadv : a.machine.advance passes e with
  | none =>
      left
      obtain ⟨err, herr⟩ : ∃ err, (a.machine.step passes e).error = some err := by
        simpa [Machine.advance, Option.ne_none_iff_exists'] using hadv
      have hstep := Machine.step_eq_refuse inv herr
      exact ⟨err, hstep, accept_of_refuse emitter hstep⟩
  | some result =>
      right
      obtain ⟨m, b⟩ := result
      have hadvance := Machine.advance_eq_some_iff.mp hadv
      cases b with
      | none =>
          obtain ⟨notes, hacc⟩ := accept_of_silent emitter hadv
          exact .inl ⟨m, notes, hadvance, hacc⟩
      | some b =>
          obtain ⟨notes, hacc⟩ := accept_of_handed emitter hadv
          exact .inr ⟨m, b, notes, hadvance, hacc⟩

/-- For the machine a call either changes nothing or is an accepted event. -/
lemma accept_advance (inv : a.machine.Invariant) (passes : Passes) (emitter : Emitter τ)
    (e : Event) :
    (a.accept passes emitter e).1 = a ∨
      ∃ b, Advance passes a.machine e (a.accept passes emitter e).1.machine b := by
  rcases accept_cases inv passes emitter e with
    ⟨err, -, hacc⟩ | ⟨m, notes, hadv, hacc⟩ | ⟨m, b, notes, hadv, hacc⟩
  · left
    rw [hacc]
  · right
    rw [hacc]
    exact ⟨none, hadv⟩
  · right
    rw [hacc]
    exact ⟨some b, hadv⟩

/-- **Induction over a history.**  What holds at its start and is kept by every call holds at its
end, and so does the machine's invariant. -/
theorem calls_induction {P : Assembly τ → Prop}
    (hstep : ∀ {a : Assembly τ} (e : Event), a.machine.Invariant → P a →
      P (a.accept passes emitter e).1)
    (inv : a.machine.Invariant) (h : P a) (es : List Event) :
    (a.calls passes emitter es).machine.Invariant ∧ P (a.calls passes emitter es) := by
  induction es generalizing a with
  | nil => exact ⟨inv, h⟩
  | cons e es ih =>
      refine ih (a := (a.accept passes emitter e).1) ?_ (hstep e inv h)
      rcases accept_advance inv passes emitter e with hsame | ⟨b, hadv⟩
      · rw [hsame]
        exact inv
      · exact inv.advance hadv

lemma invariant_calls (inv : a.machine.Invariant) (es : List Event) :
    (a.calls passes emitter es).machine.Invariant :=
  (calls_induction (P := fun _ => True) (fun _ _ _ => trivial) inv trivial es).1

/-- What has been closed stays as it is for the rest of a history. -/
lemma closed_calls (passes : Passes) (emitter : Emitter τ) (inv : a.machine.Invariant) {s : Slot}
    {c : Container} (hc : a.machine.container? s = some c) (hclosed : a.machine.active ≠ some s)
    (es : List Event) :
    (a.calls passes emitter es).machine.container? s = some c ∧
      (a.calls passes emitter es).machine.active ≠ some s := by
  refine (calls_induction (P := fun a => a.machine.container? s = some c ∧
    a.machine.active ≠ some s) ?_ inv ⟨hc, hclosed⟩ es).2
  rintro a e inv ⟨hc, hclosed⟩
  rcases accept_advance inv passes emitter e with hsame | ⟨b, hadv⟩
  · rw [hsame]
    exact ⟨hc, hclosed⟩
  · exact hadv.closed hc hclosed

/-- The record of the blocks handed over and the machine's list of closed blocks grow together. -/
lemma recorded_calls (passes : Passes) (emitter : Emitter τ) (t : τ) (es : List Event) :
    let a := ({ target := (t, []) } : Assembly (τ × List Block)).calls passes emitter.recorded es
    a.target.2.map Block.name = a.machine.closedBlocks := by
  refine (calls_induction (P := fun a : Assembly (τ × List Block) =>
    a.target.2.map Block.name = a.machine.closedBlocks) ?_ .initial rfl es).2
  intro a e inv h
  rcases accept_cases inv passes emitter.recorded e with
    ⟨err, -, hacc⟩ | ⟨m, notes, hadv, hacc⟩ | ⟨m, b, notes, hadv, hacc⟩
  · rw [hacc]
    exact h
  · rw [hacc]
    simpa [h] using (Machine.closedBlocks_advance inv hadv).symm
  · rw [hacc]
    simpa [Emitter.recorded, h] using (Machine.closedBlocks_advance inv hadv).symm

/-- **After every history** of calls on a fresh machine, in any order and with any outcomes, the
machine's invariant holds.  Hence closing never finds a register that cannot be completed; a closed
macro completes to writes with which it is answered for the rest of the history; and the blocks that
the emitter has been handed are the closed ones, in order, each once. -/
theorem calls_invariant (passes : Passes) (emitter : Emitter τ) (t : τ) (es : List Event) :
    let a := ({ target := (t, []) } : Assembly (τ × List Block)).calls passes emitter.recorded es
    a.machine.Invariant ∧
      (∀ block r, (a.machine.close passes).error ≠ some (.incomplete block r)) ∧
      (∀ i c, a.machine.container? ⟨.macroDef, i⟩ = some c →
        a.machine.active ≠ some ⟨.macroDef, i⟩ →
        ∃ ws, c.complete = .ok ws ∧ ∀ later,
          (a.calls passes emitter.recorded later).machine.macroWrites? c.name = some ws) ∧
      a.target.2.map Block.name = a.machine.closedBlocks ∧ a.machine.closedBlocks.Nodup := by
  intro a
  have inv : a.machine.Invariant := invariant_calls .initial es
  refine ⟨inv, ?_, ?_, recorded_calls passes emitter t es, inv.nodup_closedBlocks⟩
  · intro block r herr
    rcases Machine.close_cases inv passes with haccepted | ⟨err, hrefused, hne⟩
    · rw [haccepted] at herr
      cases herr
    · rw [hrefused] at herr
      exact hne block r (Option.some.inj herr)
  · intro i c hc hclosed
    obtain ⟨ws, hws⟩ := exists_completes (inv.closedReady hc hclosed)
    have hcomplete := Container.complete_eq_ok_iff.mpr hws
    refine ⟨ws, hcomplete, fun later => ?_⟩
    obtain ⟨hc', hclosed'⟩ := closed_calls passes emitter.recorded inv hc hclosed later
    exact (invariant_calls inv later).macroWrites?_of_closed hc' hclosed' hcomplete

/-- A macro, a block that uses it, and four calls that are refused on the way: a name that is taken,
an operand that does not fit, a macro that inserts itself, and a closing too many. -/
def Event.bumpy : List Event :=
  [.startMacro "dot", .select 0x05, .insert "dot" none, .push (.vec3 ⟨1, 2, 3⟩), .insert "dot" none,
    .close, .close, .startBlock "dot", .startBlock "shape", .insert "dot" (some ⟨1, 1⟩),
    .push (.scalar 7), .close]

/-- With an emitter that fails at every block, the macro and the block are there all the same. -/
theorem calls_invariant_bumpy :
    let refusing := (Emitter.collect.cancelable true).recorded
    let a := ({ target := ([], []) } : Assembly (List Block × List Block)).calls .all refusing
      Event.bumpy
    a.machine.container? ⟨.macroDef, 0⟩
        = some { name := "dot", drafts := [.xyz2 (some ⟨1, 2, 3⟩)] } ∧
      a.machine.active ≠ some ⟨.macroDef, 0⟩ ∧
      (∀ later, (a.calls .all refusing later).machine.macroWrites? "dot"
        = some [.xyz2 ⟨1, 2, 3⟩]) ∧
      a.target.2.map Block.name = ["shape"] := by
  obtain ⟨-, -, hmacros, hnames, -⟩ :=
    calls_invariant .all (Emitter.collect.cancelable true) [] Event.bumpy
  obtain ⟨ws, hws, hlater⟩ := hmacros 0 { name := "dot", drafts := [.xyz2 (some ⟨1, 2, 3⟩)] }
    (by decide +kernel) (by decide +kernel)
  obtain rfl : [.xyz2 ⟨1, 2, 3⟩] = ws := Except.ok.inj hws
  exact ⟨by decide +kernel, by decide +kernel, hlater, hnames.trans (by decide +kernel)⟩

/-! ## Failed calls -/

/-- **A failed call**, after any history.  If the fault is not the emitter's, the assembly is what
it was: nothing was handed to the emitter and there is nothing to report.  If it is, the call closed
a block, and the machine is idle and counts the block as closed, just as it does whatever another
emitter makes of the block. -/
theorem accept_fault (passes : Passes) (emitter : Emitter τ) (t : τ) (es : List Event) (e : Event)
    (f : Fault) :
    let a := ({ target := t } : Assembly τ).calls passes emitter es
    let after := a.accept passes emitter e
    after.2 = some f →
      ((∀ block cause, f ≠ .emitting block cause) →
        after.1 = a ∧ (a.machine.step passes e).handed = none ∧
          (a.machine.step passes e).notes = []) ∧
      ∀ block cause, f = .emitting block cause →
        e = .close ∧ after.1.machine.state = .idle ∧
          after.1.machine.closedBlocks = a.machine.closedBlocks ++ [block] ∧
          ∀ {σ : Type} (other : Emitter σ) (x : σ),
            (({ machine := a.machine, target := x } : Assembly σ).accept passes other e).1.machine
              = after.1.machine := by
  intro a after hfault
  have inv : a.machine.Invariant := invariant_calls .initial es
  have hother : ∀ {σ : Type} (other : Emitter σ) (x : σ),
      (({ machine := a.machine, target := x } : Assembly σ).accept passes other e).1.machine
        = after.1.machine := by
    intro σ other x
    rw [machine_accept, machine_accept]
  rcases accept_cases inv passes emitter e with
    ⟨err, hrefused, hacc⟩ | ⟨m, notes, hadv, hacc⟩ | ⟨m, b, notes, hadv, hacc⟩
  · have hafter : after = (a, some (.machine err)) := hacc
    obtain rfl : Fault.machine err = f := by simpa [hafter] using hfault
    refine ⟨fun _ => ?_, fun block cause hf => by cases hf⟩
    rw [hafter, hrefused]
    exact ⟨rfl, rfl, rfl⟩
  · have hafter : after = (_, none) := hacc
    simp [hafter] at hfault
  · have hafter : after = (_, _) := hacc
    rw [hafter, Option.map_eq_some_iff] at hfault
    obtain ⟨cause, hcause, rfl⟩ := hfault
    refine ⟨fun hne => absurd rfl (hne b.name cause), fun block cause' hf => ?_⟩
    obtain ⟨rfl, rfl⟩ := Fault.emitting.inj hf
    have hclosed := Machine.closedBlocks_advance inv hadv
    have hmachine : after.1.machine = m := by rw [hafter]
    rw [hmachine]
    refine ⟨?_, ?_, by simpa using hclosed, fun other x => (hother other x).trans hmachine⟩
    · cases hadv
      rfl
    · cases hadv
      rfl

/-- A texture setting that has its size and lacks the rest refuses another size and stays as it is;
a block that its emitter refuses is closed. -/
theorem accept_fault_halfFilled :
    (let a := ({ target := [] } : Assembly (List Block)).calls .all .collect
        [.startBlock "b", .select 0x06, .push (.scalar 1), .push (.vec2 ⟨2, 3⟩)]
      let after := a.accept .all .collect (.push (.vec2 ⟨4, 5⟩))
      after.2 = some (.machine (.rejected (.operand .tex0 (.vec2 ⟨4, 5⟩)))) ∧ after.1 = a) ∧
    let refusing := Emitter.collect.cancelable true
    let a := ({ target := [] } : Assembly (List Block)).calls .all refusing
      [.startBlock "b", .select 0x61]
    let after := a.accept .all refusing .close
    after.2 = some (.emitting "b" .canceled) ∧ after.1.machine.state = .idle ∧
      after.1.machine.closedBlocks = a.machine.closedBlocks ++ ["b"] := by
  obtain ⟨hsame, -⟩ := accept_fault .all .collect []
    [.startBlock "b", .select 0x06, .push (.scalar 1), .push (.vec2 ⟨2, 3⟩)] (.push (.vec2 ⟨4, 5⟩))
    (.machine (.rejected (.operand .tex0 (.vec2 ⟨4, 5⟩)))) (by decide +kernel)
  obtain ⟨-, hclosed⟩ := accept_fault .all (Emitter.collect.cancelable true) []
    [.startBlock "b", .select 0x61] .close (.emitting "b" .canceled) (by decide +kernel)
  obtain ⟨-, hidle, hblocks, -⟩ := hclosed "b" .canceled rfl
  exact ⟨⟨by decide +kernel, (hsame (by simp)).1⟩, by decide +kernel, hidle, hblocks⟩

end Assembly

end RegisterScript
