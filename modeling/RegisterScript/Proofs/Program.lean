import RegisterScript.Proofs.Filling
import RegisterScript.Proofs.MachineStep

/-!
# Programs and what they mean

Events come one at a time and say nothing about each other.  A `Program` is the tree behind them: a
list of macro and block definitions, each with its statements.  This file says what a program
means without a machine: no arena, no open container and no draft that is still being filled.

**Syntax.**  `Statement`, `Definition`, `Program`, and the events of each.

**Well-formedness.**  `Program.WellFormed` collects everything that can be wrong with a program.
Seen from the last definition it is one condition, `Definition.Fits`, on what came before
(`wellFormed_concat_iff`).

**Meaning.**  `Program.expansion` are the blocks of a program with every insertion replaced by the
moved writes of its macro.
-/

namespace RegisterScript

/-! ## Syntax -/

/-- A statement of a block or macro. -/
inductive Statement where
  /-- Writes to the register at an address. -/
  | register (address : UInt8) (arguments : List Argument)
  /-- Inserts a macro, moved by the offset if there is one. -/
  | insertion (name : String) (offset : Option Vec2)
  deriving DecidableEq, Repr

/-- A block or macro with its statements. -/
structure Definition where
  kind : ContainerKind
  name : String
  body : List Statement
  deriving DecidableEq, Repr

/-- The definitions of a program, in order. -/
abbrev Program := List Definition

/-- The events of a statement. -/
def Statement.events : Statement → List Event
  | register address arguments => .select address :: arguments.map Argument.event
  | insertion name offset => [.insert name offset]

/-- The events of a definition: its opening, its statements and its closing. -/
def Definition.events (d : Definition) : List Event :=
  d.kind.startEvent d.name :: (d.body.flatMap Statement.events ++ [.close])

/-- The events of a program. -/
def Program.events (p : Program) : List Event := p.flatMap Definition.events

/-! ## Meaning -/

/-- The macros that have been defined, newest first, with the writes that they stand for. -/
abbrev Macros := List (String × List Write)

/-- The draft of a register statement, if its register exists and takes all arguments. -/
def Statement.draft? (address : UInt8) (arguments : List Argument) : Option Draft :=
  (Register.ofAddress? address).bind fun r => (Draft.empty r).fill? arguments

/-- Writes, moved by an offset if there is one. -/
def moved (offset : Option Vec2) (ws : List Write) : List Write :=
  match offset with
  | none => ws
  | some off => ws.map (Write.shift off)

/-- The writes that a statement contributes. -/
def Statement.expand (macros : Macros) : Statement → List Write
  | register address arguments => ((draft? address arguments).bind Draft.complete?).toList
  | insertion name offset => moved offset ((macros.lookup name).getD [])

/-- The writes that a definition stands for. -/
def Definition.expand (macros : Macros) (d : Definition) : List Write :=
  d.body.flatMap (Statement.expand macros)

/-- The macros after a definition. -/
def Definition.define (macros : Macros) (d : Definition) : Macros :=
  match d.kind with
  | .block => macros
  | .macroDef => (d.name, d.expand macros) :: macros

/-- The block that a definition gives rise to, if it is that of a block. -/
def Definition.block? (macros : Macros) (d : Definition) : Option Block :=
  match d.kind with
  | .block => some { name := d.name, writes := d.expand macros }
  | .macroDef => none

namespace Program

/-- The blocks of a program that follows on given macros. -/
def expansionFrom (macros : Macros) : Program → List Block
  | [] => []
  | d :: p => (d.block? macros).toList ++ expansionFrom (d.define macros) p

/-- The blocks of a program, in the order of definition. -/
def expansion (p : Program) : List Block := p.expansionFrom []

/-- The macros that a program defines. -/
def macros (p : Program) : Macros := p.foldl Definition.define []

end Program

/-! ## Well-formedness -/

/-- The arguments of a register statement are all accepted by a fresh register of that kind, and
leave it ready. -/
def Statement.Fills (address : UInt8) (arguments : List Argument) : Prop :=
  ∃ r d, Register.ofAddress? address = some r ∧ (Draft.empty r).fill? arguments = some d ∧
    d.ready = true

/-- Everything that has to be right about a program. -/
structure Program.WellFormed (p : Program) : Prop where
  /-- Names are shared between blocks and macros and given once. -/
  distinct : (p.map Definition.name).Nodup
  /-- Every definition has a statement. -/
  nonempty {d : Definition} (hd : d ∈ p) : d.body ≠ []
  /-- Every register statement fills its register. -/
  filled {d : Definition} (hd : d ∈ p) {address : UInt8} {arguments : List Argument}
    (hst : Statement.register address arguments ∈ d.body) : Statement.Fills address arguments
  /-- Every insertion names a macro that is defined before the definition it stands in. -/
  resolved {before after : Program} {d : Definition} (hp : p = before ++ d :: after)
    {name : String} {offset : Option Vec2} (hst : Statement.insertion name offset ∈ d.body) :
    ∃ e ∈ before, e.kind = .macroDef ∧ e.name = name

/-- What has to be right about a statement, where these macros have been defined. -/
def Statement.Valid (macros : Macros) : Statement → Prop
  | register address arguments => Fills address arguments
  | insertion name _ => (macros.lookup name).isSome = true

/-- The definition can follow on the program. -/
structure Definition.Fits (p : Program) (d : Definition) : Prop where
  fresh : d.name ∉ p.map Definition.name
  nonempty : d.body ≠ []
  valid : ∀ st ∈ d.body, st.Valid p.macros

/-! ## One more definition -/

namespace Program

@[simp] lemma events_nil : events [] = [] := rfl

@[simp] lemma events_concat (p : Program) (d : Definition) :
    events (p ++ [d]) = p.events ++ d.events := by
  simp [events]

@[simp] lemma macros_nil : macros [] = [] := rfl

@[simp] lemma macros_concat (p : Program) (d : Definition) :
    macros (p ++ [d]) = d.define p.macros := by
  simp [macros]

lemma expansionFrom_concat (ms : Macros) (p : Program) (d : Definition) :
    expansionFrom ms (p ++ [d])
      = expansionFrom ms p ++ (d.block? (p.foldl Definition.define ms)).toList := by
  induction p generalizing ms with
  | nil => simp [expansionFrom]
  | cons e p ih => simp [expansionFrom, ih]

@[simp] lemma expansion_concat (p : Program) (d : Definition) :
    expansion (p ++ [d]) = p.expansion ++ (d.block? p.macros).toList :=
  expansionFrom_concat [] p d

/-- The macros of a program are its macro definitions. -/
lemma isSome_lookup_macros_iff (p : Program) (name : String) :
    (p.macros.lookup name).isSome = true ↔ ∃ e ∈ p, e.kind = .macroDef ∧ e.name = name := by
  induction p using List.reverseRecOn with
  | nil => simp
  | append_singleton p d ih =>
      rw [macros_concat]
      cases hk : d.kind with
      | block => simp [Definition.define, hk, ih, or_and_right, exists_or]
      | macroDef =>
          by_cases hname : name = d.name
          · simp only [Definition.define, hk, hname, List.lookup_cons, beq_self_eq_true,
              Option.isSome_some, true_iff]
            exact ⟨d, by simp, hk, rfl⟩
          · simp [Definition.define, hk, ih, List.lookup_cons, beq_false_of_ne hname, or_and_right,
              exists_or, Ne.symm hname]

lemma wellFormed_nil : WellFormed [] where
  distinct := List.nodup_nil
  nonempty h := by simp at h
  filled h := by simp at h
  resolved h := by simp at h

lemma WellFormed.of_concat {p : Program} {d : Definition} (h : WellFormed (p ++ [d])) :
    p.WellFormed where
  distinct := by
    have hdistinct := h.distinct
    rw [List.map_append] at hdistinct
    exact hdistinct.of_append_left
  nonempty hd := h.nonempty (List.mem_append_left _ hd)
  filled hd _ _ hst := h.filled (List.mem_append_left _ hd) hst
  resolved {before after e} hp name offset hst := by
    have hp' : p ++ [d] = before ++ e :: (after ++ [d]) := by
      rw [hp, List.append_assoc, List.cons_append]
    exact h.resolved hp' hst

lemma WellFormed.fits {p : Program} {d : Definition} (h : WellFormed (p ++ [d])) :
    d.Fits p where
  fresh := by
    have hdistinct := h.distinct
    rw [List.map_append, List.map_singleton, List.nodup_append] at hdistinct
    intro hmem
    exact hdistinct.2.2 _ hmem _ (List.mem_singleton.mpr rfl) rfl
  nonempty := h.nonempty (by simp)
  valid st hst := by
    cases st with
    | register address arguments => exact h.filled (by simp) hst
    | insertion name offset =>
        exact (isSome_lookup_macros_iff p name).mpr (h.resolved rfl hst)

lemma WellFormed.concat {p : Program} {d : Definition} (h : p.WellFormed) (hd : d.Fits p) :
    WellFormed (p ++ [d]) where
  distinct := by
    rw [List.map_append, List.map_singleton, List.nodup_append]
    refine ⟨h.distinct, List.nodup_singleton _, ?_⟩
    rintro n hn _ hd' rfl
    rw [List.mem_singleton] at hd'
    exact hd.fresh (hd' ▸ hn)
  nonempty {e} he := by
    rcases List.mem_append.mp he with he | he
    · exact h.nonempty he
    · rw [List.mem_singleton.mp he]
      exact hd.nonempty
  filled {e} he address arguments hst := by
    rcases List.mem_append.mp he with he | he
    · exact h.filled he hst
    · rw [List.mem_singleton.mp he] at hst
      exact hd.valid _ hst
  resolved {before after e} hp name offset hst := by
    -- The split is either inside `p` or right before `d`.
    rcases List.eq_nil_or_concat after with rfl | ⟨after, last, rfl⟩
    · obtain ⟨rfl, rfl⟩ := List.append_singleton_inj.mp hp
      exact (isSome_lookup_macros_iff p name).mp (hd.valid _ hst)
    · rw [List.concat_eq_append, ← List.cons_append, ← List.append_assoc] at hp
      obtain ⟨rfl, -⟩ := List.append_singleton_inj.mp hp
      exact h.resolved rfl hst

/-- **A program is well-formed exactly if its definitions fit, one after the other.** -/
theorem wellFormed_concat_iff {p : Program} {d : Definition} :
    WellFormed (p ++ [d]) ↔ p.WellFormed ∧ d.Fits p :=
  ⟨fun h => ⟨h.of_concat, h.fits⟩, fun h => h.1.concat h.2⟩

end Program

end RegisterScript
