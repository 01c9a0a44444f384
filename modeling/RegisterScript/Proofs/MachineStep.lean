import Mathlib.Tactic
import RegisterScript.Machine
import RegisterScript.Proofs.CleanUp

/-!
# What one event can do to the machine

Every operation of the machine asks its questions in its own order and may refuse.  What matters to
a longer argument is only what an *accepted* event does, and that is said once, here.

* `Machine.openNew`, `Machine.setDrafts` and going idle are the three ways in which the machine
  changes; each has its lemmas on `container?`, `slot?` and `active`, so that nothing later looks
  at an arena.
* `Machine.Filling`, the four events that fill the open container, with the drafts they leave.
* `Machine.Advance`, all accepted events, and `advance_eq_some_iff`: `Machine.advance`, a step with
  its refusals left out, is exactly this relation.
* `Machine.run`, many events, all of which have to be accepted, with the blocks handed over.
-/

namespace RegisterScript

/-- The event that opens a container. -/
def ContainerKind.startEvent : ContainerKind → String → Event
  | .block, name => .startBlock name
  | .macroDef, name => .startMacro name

namespace Machine

/-- The machine with a new, empty container open. -/
def openNew (m : Machine) (kind : ContainerKind) (name : String) : Machine :=
  let s : Slot := ⟨kind, (m.arena kind).size⟩
  let opened : Machine := { m with names := (name, s) :: m.names, active := some s }
  match kind with
  | .block => { opened with blocks := m.blocks.push { name := name } }
  | .macroDef => { opened with macros := m.macros.push { name := name } }

/-- The machine with no container open. -/
def idle (m : Machine) : Machine := { m with active := none }

/-! ## Slots -/

@[simp] lemma active_idle (m : Machine) : m.idle.active = none := rfl

@[simp] lemma slot?_idle (m : Machine) (name : String) : m.idle.slot? name = m.slot? name := rfl

@[simp] lemma container?_idle (m : Machine) (s : Slot) : m.idle.container? s = m.container? s := by
  obtain ⟨kind, i⟩ := s
  cases kind <;> rfl

@[simp] lemma size_arena_idle (m : Machine) (kind : ContainerKind) :
    (m.idle.arena kind).size = (m.arena kind).size := by
  cases kind <;> rfl

@[simp] lemma active_setDrafts (m : Machine) (s : Slot) (ds : List Draft) :
    (m.setDrafts s ds).active = m.active := by
  obtain ⟨kind, i⟩ := s
  cases kind <;> rfl

@[simp] lemma slot?_setDrafts (m : Machine) (s : Slot) (ds : List Draft) (name : String) :
    (m.setDrafts s ds).slot? name = m.slot? name := by
  obtain ⟨kind, i⟩ := s
  cases kind <;> rfl

lemma arena_setDrafts (m : Machine) (s : Slot) (ds : List Draft) (kind : ContainerKind) :
    (m.setDrafts s ds).arena kind =
      if kind = s.kind then (m.arena kind).modify s.index ({ · with drafts := ds })
      else m.arena kind := by
  obtain ⟨kind', i⟩ := s
  cases kind' <;> cases kind <;> rfl

@[simp] lemma size_arena_setDrafts (m : Machine) (s : Slot) (ds : List Draft)
    (kind : ContainerKind) : ((m.setDrafts s ds).arena kind).size = (m.arena kind).size := by
  rw [arena_setDrafts]
  split <;> simp

lemma container?_setDrafts (m : Machine) (s : Slot) (ds : List Draft) (s' : Slot) :
    (m.setDrafts s ds).container? s' =
      if s' = s then (m.container? s).map ({ · with drafts := ds }) else m.container? s' := by
  obtain ⟨kind, i⟩ := s
  obtain ⟨kind', i'⟩ := s'
  rw [container?, arena_setDrafts]
  by_cases hk : kind' = kind
  · subst hk
    rw [if_pos rfl, Array.getElem?_modify]
    by_cases hi : i = i'
    · simp [container?, hi]
    · simp [container?, hi, Ne.symm hi]
  · simp [container?, hk]

/-- Filling the same container twice: only the second filling counts. -/
lemma setDrafts_setDrafts (m : Machine) (s : Slot) (ds ds' : List Draft) :
    (m.setDrafts s ds).setDrafts s ds' = m.setDrafts s ds' := by
  have hmodify : ∀ a : Array Container,
      (a.modify s.index ({ · with drafts := ds })).modify s.index ({ · with drafts := ds' })
        = a.modify s.index ({ · with drafts := ds' }) := by
    intro a
    refine Array.ext_getElem? fun j => ?_
    simp only [Array.getElem?_modify]
    split
    · simp [Option.map_map, Function.comp_def]
    · rfl
  obtain ⟨kind, i⟩ := s
  cases kind <;> simp only [setDrafts, hmodify]

@[simp] lemma active_openNew (m : Machine) (kind : ContainerKind) (name : String) :
    (m.openNew kind name).active = some ⟨kind, (m.arena kind).size⟩ := by
  cases kind <;> rfl

lemma slot?_openNew (m : Machine) (kind : ContainerKind) (name other : String) :
    (m.openNew kind name).slot? other =
      if other = name then some ⟨kind, (m.arena kind).size⟩ else m.slot? other := by
  have hnames : (m.openNew kind name).names = (name, ⟨kind, (m.arena kind).size⟩) :: m.names := by
    cases kind <;> rfl
  rw [slot?, hnames, List.lookup_cons]
  by_cases h : other = name
  · simp [h]
  · rw [beq_false_of_ne h, if_neg h, slot?]

lemma arena_openNew (m : Machine) (kind kind' : ContainerKind) (name : String) :
    (m.openNew kind name).arena kind' =
      if kind' = kind then (m.arena kind').push { name := name } else m.arena kind' := by
  cases kind <;> cases kind' <;> rfl

lemma container?_openNew (m : Machine) (kind : ContainerKind) (name : String) (s : Slot) :
    (m.openNew kind name).container? s =
      if s = ⟨kind, (m.arena kind).size⟩ then some { name := name } else m.container? s := by
  obtain ⟨kind', i⟩ := s
  rw [container?, arena_openNew]
  by_cases hk : kind' = kind
  · subst hk
    rw [if_pos rfl, Array.getElem?_push]
    by_cases hi : i = (m.arena kind').size <;> simp [container?, hi]
  · simp [container?, hk]

lemma current?_eq_some_iff {m : Machine} {s : Slot} {c : Container} :
    m.current? = some (s, c) ↔ m.active = some s ∧ m.container? s = some c := by
  simp only [current?, Option.bind_eq_bind, Option.bind_eq_some_iff, Option.pure_def,
    Option.some.injEq, Prod.mk.injEq]
  constructor
  · rintro ⟨s', hs, c', hc, rfl, rfl⟩
    exact ⟨hs, hc⟩
  · rintro ⟨hs, hc⟩
    exact ⟨s, hs, c, hc, rfl, rfl⟩

lemma current?_of_active_none {m : Machine} (h : m.active = none) : m.current? = none := by
  simp [current?, h]

/-! ## Accepted events -/

/-- The events that fill an open container `c`, with the drafts that they leave in it. -/
inductive Filling (m : Machine) (c : Container) : Event → List Draft → Prop where
  | select {address : UInt8} {r : Register} (hready : c.unready? = none)
      (hr : Register.ofAddress? address = some r) :
      Filling m c (.select address) (.empty r :: c.drafts)
  | push {v : Operand} {last d : Draft} {earlier : List Draft} (hlast : c.drafts = last :: earlier)
      (hd : last.pushed? v = some d) : Filling m c (.push v) (d :: earlier)
  | modify {modifier : Modifier} {last d : Draft} {earlier : List Draft}
      (hlast : c.drafts = last :: earlier) (hd : last.modified? modifier = some d) :
      Filling m c (.modify modifier) (d :: earlier)
  | insert {name : String} {offset : Option Vec2} {i : Nat} {inserted : Container}
      (hready : c.unready? = none) (hslot : m.slot? name = some ⟨.macroDef, i⟩)
      (hclosed : m.active ≠ some ⟨.macroDef, i⟩)
      (hstored : m.container? ⟨.macroDef, i⟩ = some inserted) :
      Filling m c (.insert name offset) (insertedDrafts offset inserted.drafts ++ c.drafts)

/-- The events that a machine accepts, with the machine afterwards and the block that is handed
over, if one is. -/
inductive Advance (passes : Passes) (m : Machine) : Event → Machine → Option Block → Prop where
  | opened {kind : ContainerKind} {name : String} (hidle : m.current? = none)
      (hfresh : m.slot? name = none) :
      Advance passes m (kind.startEvent name) (m.openNew kind name) none
  | closedMacro {i : Nat} {c : Container} (hcur : m.current? = some (⟨.macroDef, i⟩, c))
      (hne : c.drafts ≠ []) (hready : c.unready? = none) :
      Advance passes m .close m.idle none
  | closedBlock {i : Nat} {c : Container} {ws : List Write}
      (hcur : m.current? = some (⟨.block, i⟩, c)) (hne : c.drafts ≠ [])
      (hready : c.unready? = none) (hws : c.complete = .ok ws) :
      Advance passes m .close m.idle
        (some (({ name := c.name, writes := ws } : Block).optimized passes))
  | filled {e : Event} {s : Slot} {c : Container} {ds : List Draft}
      (hcur : m.current? = some (s, c)) (hfill : m.Filling c e ds) :
      Advance passes m e (m.setDrafts s ds) none

/-- One step with its refusals left out: the machine afterwards, and the block handed over. -/
def advance (passes : Passes) (m : Machine) (e : Event) : Option (Machine × Option Block) :=
  let reply := m.step passes e
  if reply.error.isNone then some (reply.machine, reply.handed) else none

lemma advance_of_step {passes : Passes} {m : Machine} {e : Event} {reply : Reply}
    (h : m.step passes e = reply) (herr : reply.error = none) :
    m.advance passes e = some (reply.machine, reply.handed) := by
  simp [advance, h, herr]

lemma machine_of_advance {passes : Passes} {m m' : Machine} {e : Event} {b : Option Block}
    (h : m.advance passes e = some (m', b)) : (m.step passes e).machine = m' := by
  rw [advance] at h
  split_ifs at h
  exact congrArg Prod.fst (Option.some.inj h)

lemma step_startEvent (passes : Passes) (m : Machine) (kind : ContainerKind) (name : String) :
    m.step passes (kind.startEvent name) = m.start kind name := by
  cases kind <;> rfl

lemma advance_of_advances {passes : Passes} {m m' : Machine} {e : Event} {b : Option Block}
    (h : Advance passes m e m' b) : m.advance passes e = some (m', b) := by
  cases h with
  | opened hidle hfresh =>
      rename_i kind name
      rw [advance_of_step (step_startEvent passes m kind name)]
      · rw [start, hidle, hfresh]
        cases kind <;> rfl
      · rw [start, hidle, hfresh]
  | closedMacro hcur hne hready => simp [advance, step, close, hcur, hne, hready, idle]
  | closedBlock hcur hne hready hws =>
      simp [advance, step, close, hcur, hne, hready, hws, idle, Block.optimized]
  | filled hcur hfill =>
      cases hfill with
      | select hready hr => simp [advance, step, select, hcur, hready, hr]
      | push hlast hd => simp [advance, step, push, hcur, hlast, Draft.push, hd]
      | modify hlast hd => simp [advance, step, modify, hcur, hlast, Draft.apply, hd]
      | insert hready hslot hclosed hstored =>
          have hstored' : m.macros[_]? = some _ := hstored
          simp [advance, step, insert, hcur, hready, hslot, hclosed, hstored']

lemma start_inv {m : Machine} (kind : ContainerKind) {name : String} {passes : Passes}
    (h : (m.start kind name).error = none) :
    Advance passes m (kind.startEvent name) (m.start kind name).machine
      (m.start kind name).handed := by
  rw [start] at h ⊢
  split at h
  · cases h
  · rename_i hidle
    split at h
    · cases h
    · rename_i hfresh
      cases kind <;> exact .opened hidle hfresh

lemma close_inv {m : Machine} {passes : Passes} (h : (m.close passes).error = none) :
    Advance passes m .close (m.close passes).machine (m.close passes).handed := by
  rw [close] at h ⊢
  split at h
  · cases h
  · rename_i s c hcur
    split_ifs at h ⊢ with hne
    · cases h
    · have hne' : c.drafts ≠ [] := by simpa using hne
      split at h
      · cases h
      · rename_i hready
        obtain ⟨kind, i⟩ := s
        cases kind with
        | macroDef => exact .closedMacro hcur hne' hready
        | block =>
            dsimp only at h ⊢
            split at h
            · cases h
            · rename_i ws hws
              exact .closedBlock hcur hne' hready hws

lemma select_inv {m : Machine} {passes : Passes} {address : UInt8}
    (h : (m.select address).error = none) :
    Advance passes m (.select address) (m.select address).machine (m.select address).handed := by
  rw [select] at h ⊢
  split at h
  · cases h
  · rename_i s c hcur
    split at h
    · cases h
    · rename_i hready
      split at h
      · cases h
      · rename_i r hr
        exact .filled hcur (.select hready hr)

lemma push_inv {m : Machine} {passes : Passes} {v : Operand} (h : (m.push v).error = none) :
    Advance passes m (.push v) (m.push v).machine (m.push v).handed := by
  rw [push] at h ⊢
  split at h
  · cases h
  · rename_i s c hcur
    split at h
    · cases h
    · rename_i last earlier hlast
      cases hd : last.pushed? v with
      | none => simp [Draft.push, hd, refuse] at h
      | some d =>
          simp only [Draft.push, hd]
          exact .filled hcur (.push hlast hd)

lemma modify_inv {m : Machine} {passes : Passes} {modifier : Modifier}
    (h : (m.modify modifier).error = none) :
    Advance passes m (.modify modifier) (m.modify modifier).machine (m.modify modifier).handed := by
  rw [modify] at h ⊢
  split at h
  · cases h
  · rename_i s c hcur
    split at h
    · cases h
    · rename_i last earlier hlast
      cases hd : last.modified? modifier with
      | none => simp [Draft.apply, hd, refuse] at h
      | some d =>
          simp only [Draft.apply, hd]
          exact .filled hcur (.modify hlast hd)

lemma insert_inv {m : Machine} {passes : Passes} {name : String} {offset : Option Vec2}
    (h : (m.insert name offset).error = none) :
    Advance passes m (.insert name offset) (m.insert name offset).machine
      (m.insert name offset).handed := by
  rw [insert] at h ⊢
  split at h
  · cases h
  · rename_i s c hcur
    split at h
    · cases h
    · rename_i hready
      split at h
      · rename_i i hslot
        split_ifs at h ⊢ with hclosed
        · cases h
        · split at h
          · cases h
          · rename_i inserted hstored
            exact .filled hcur (.insert hready hslot hclosed hstored)
      · cases h

/-- **The accepted events, exactly.** -/
theorem advance_eq_some_iff {passes : Passes} {m m' : Machine} {e : Event} {b : Option Block} :
    m.advance passes e = some (m', b) ↔ Advance passes m e m' b := by
  refine ⟨fun h => ?_, advance_of_advances⟩
  simp only [advance] at h
  split_ifs at h with herr
  obtain ⟨rfl, rfl⟩ : (m.step passes e).machine = m' ∧ (m.step passes e).handed = b := by
    simpa using h
  have herr' : (m.step passes e).error = none := Option.isNone_iff_eq_none.mp herr
  cases e with
  | startBlock name => exact start_inv .block herr'
  | startMacro name => exact start_inv .macroDef herr'
  | close => exact close_inv herr'
  | select address => exact select_inv herr'
  | push v => exact push_inv herr'
  | modify modifier => exact modify_inv herr'
  | insert name offset => exact insert_inv herr'

/-- While a container is open, it can be closed or filled. -/
lemma Advance.close_or_filling {passes : Passes} {m m' : Machine} {e : Event} {b : Option Block}
    {s : Slot} {c : Container} (h : Advance passes m e m' b) (hcur : m.current? = some (s, c)) :
    (e = .close ∧ c.drafts ≠ [] ∧ c.unready? = none) ∨ ∃ ds, m.Filling c e ds := by
  cases h with
  | opened hidle _ =>
      rw [hidle] at hcur
      cases hcur
  | closedMacro hcur' hne hready =>
      rw [hcur] at hcur'
      cases hcur'
      exact .inl ⟨rfl, hne, hready⟩
  | closedBlock hcur' hne hready _ =>
      rw [hcur] at hcur'
      cases hcur'
      exact .inl ⟨rfl, hne, hready⟩
  | filled hcur' hfill =>
      rw [hcur] at hcur'
      cases hcur'
      exact .inr ⟨_, hfill⟩

/-! ## Runs -/

/-- Feeds events, all of which have to be accepted; the blocks handed over are returned in
order. -/
def run (passes : Passes) (m : Machine) : List Event → Option (Machine × List Block)
  | [] => some (m, [])
  | e :: es =>
    (m.advance passes e).bind fun (m', b) =>
      (run passes m' es).map fun (m'', bs) => (m'', b.toList ++ bs)

@[simp] lemma run_nil (passes : Passes) (m : Machine) : m.run passes [] = some (m, []) := rfl

lemma run_cons_of_advance {passes : Passes} {m m' : Machine} {e : Event} {b : Option Block}
    (h : Advance passes m e m' b) (es : List Event) :
    m.run passes (e :: es) = (m'.run passes es).map fun (m'', bs) => (m'', b.toList ++ bs) := by
  simp [run, advance_eq_some_iff.mpr h]

lemma run_cons_of_silent {passes : Passes} {m m' : Machine} {e : Event}
    (h : Advance passes m e m' none) (es : List Event) :
    m.run passes (e :: es) = m'.run passes es := by
  rw [run_cons_of_advance h]
  simp

lemma run_cons_eq_none {passes : Passes} {m : Machine} {e : Event}
    (h : ∀ m' b, ¬ Advance passes m e m' b) (es : List Event) : m.run passes (e :: es) = none := by
  have hnone : m.advance passes e = none := by
    rw [Option.eq_none_iff_forall_not_mem]
    rintro ⟨m', b⟩ hmem
    exact h m' b (advance_eq_some_iff.mp hmem)
  simp [run, hnone]

lemma run_append (passes : Passes) (m : Machine) (es es' : List Event) :
    m.run passes (es ++ es') = (m.run passes es).bind fun (m', bs) =>
      (m'.run passes es').map fun (m'', bs') => (m'', bs ++ bs') := by
  induction es generalizing m with
  | nil => simp
  | cons e es ih =>
      simp only [List.cons_append, run]
      cases m.advance passes e with
      | none => rfl
      | some step =>
          simp only [Option.bind_some, ih]
          cases step.1.run passes es with
          | none => rfl
          | some result => simp [Option.map_map, Function.comp_def, List.append_assoc]

/-- A run through a first event and some more. -/
lemma run_cons_eq_some {passes : Passes} {m m' : Machine} {e : Event} {es : List Event}
    {bs : List Block} (h : m.run passes (e :: es) = some (m', bs)) :
    ∃ m₁ b bs', m.advance passes e = some (m₁, b) ∧ m₁.run passes es = some (m', bs') ∧
      bs = b.toList ++ bs' := by
  simp only [run, Option.bind_eq_some_iff, Option.map_eq_some_iff, Prod.exists,
    Prod.mk.injEq] at h
  obtain ⟨m₁, b, hadv, _, bs', hrun, rfl, rfl⟩ := h
  exact ⟨m₁, b, bs', hadv, hrun, rfl⟩

/-- The last event of a run comes after a run of the others. -/
lemma run_concat_eq_some {passes : Passes} {m m'' : Machine} {es : List Event} {e : Event}
    {bs : List Block} (h : m.run passes (es ++ [e]) = some (m'', bs)) :
    ∃ m' bs' b, m.run passes es = some (m', bs') ∧ Advance passes m' e m'' b ∧
      bs = bs' ++ b.toList := by
  rw [run_append, Option.bind_eq_some_iff] at h
  obtain ⟨⟨m', bs'⟩, hrun, hlast⟩ := h
  simp only [run, Option.map_eq_some_iff, Option.bind_eq_some_iff, Option.some.injEq,
    Prod.exists, Prod.mk.injEq] at hlast
  obtain ⟨m₁, bs₁, ⟨m₂, b, hadv, _, _, ⟨rfl, rfl⟩, rfl, rfl⟩, rfl, rfl⟩ := hlast
  exact ⟨m', bs', b, hrun, advance_eq_some_iff.mp hadv, by simp⟩

end Machine

end RegisterScript
