import RegisterScript.Proofs.Feeding
import RegisterScript.Proofs.MachineInvariant
import RegisterScript.Proofs.Program

/-!
# The machine computes the expansion

A program means its expansion, and the machine, event by event, computes just that.

**Inside a container.**  An open container only ever grows, so the machine inside it is always
`m.setDrafts s ds` for the machine `m` right after the opening.  `Completes ds ws` is what the loop
over the statements keeps; a statement adds its own writes to `ws` (`run_statement_of_valid`) or
stops the run (`run_statement_of_invalid`).

**Between containers.**  `Machine.Holds m p`: the machine is idle and knows exactly the names and
the macros of `p`.  A definition that fits leads from `p` to `p ++ [d]`
(`Holds.run_definition`), any other is refused (`Holds.run_definition_eq_none`).

**Programs.**  `run_events` for the machine alone, `Program.feed_events` with an emitter.
-/

namespace RegisterScript

namespace Machine

variable {passes : Passes} {m : Machine} {s : Slot} {c : Container}

/-! ## Filling the open container -/

lemma setDrafts_drafts (hc : m.container? s = some c) : m.setDrafts s c.drafts = m := by
  have hmodify : ∀ a : Array Container, a[s.index]? = some c →
      a.modify s.index ({ · with drafts := c.drafts }) = a := by
    intro a ha
    refine Array.ext_getElem? fun i => ?_
    rw [Array.getElem?_modify]
    split_ifs with hi
    · rw [← hi, ha, Option.map_some]
    · rfl
  obtain ⟨kind, i⟩ := s
  cases kind with
  | block => rw [setDrafts, hmodify m.blocks hc]
  | macroDef => rw [setDrafts, hmodify m.macros hc]

lemma current?_setDrafts (hcur : m.current? = some (s, c)) (ds : List Draft) :
    (m.setDrafts s ds).current? = some (s, { c with drafts := ds }) := by
  obtain ⟨hs, hc⟩ := current?_eq_some_iff.mp hcur
  rw [current?_eq_some_iff, active_setDrafts, container?_setDrafts, if_pos rfl, hc]
  exact ⟨hs, rfl⟩

/-- The machine takes the arguments exactly as the register alone does. -/
lemma run_arguments (hcur : m.current? = some (s, c)) (d : Draft) (ds : List Draft)
    (arguments : List Argument) (rest : List Event) :
    (m.setDrafts s (d :: ds)).run passes (arguments.map Argument.event ++ rest)
      = (d.fill? arguments).bind fun d' => (m.setDrafts s (d' :: ds)).run passes rest := by
  induction arguments generalizing d with
  | nil => rfl
  | cons a arguments ih =>
      have hcur' := current?_setDrafts hcur (d :: ds)
      rw [List.map_cons, List.cons_append, Draft.fill?_cons]
      cases hd : d.take? a with
      | none =>
          rw [run_cons_eq_none, Option.bind_none, Option.bind_none]
          intro m' b h
          rcases h.close_or_filling hcur' with ⟨he, -⟩ | ⟨ds', hfill⟩
          · cases a <;> cases he
          · cases a with
            | operand v =>
                cases hfill with
                | push hlast hpushed =>
                    cases hlast
                    rw [Draft.take?, hpushed] at hd
                    cases hd
            | modifier modifier =>
                cases hfill with
                | modify hlast hmodified =>
                    cases hlast
                    rw [Draft.take?, hmodified] at hd
                    cases hd
      | some d' =>
          have hfill : (m.setDrafts s (d :: ds)).Filling { c with drafts := d :: ds } a.event
              (d' :: ds) := by
            cases a with
            | operand v => exact .push rfl hd
            | modifier modifier => exact .modify rfl hd
          rw [run_cons_of_silent (.filled hcur' hfill), setDrafts_setDrafts, ih, Option.bind_some]

lemma run_register (hcur : m.current? = some (s, c)) {ds : List Draft} {ws : List Write}
    (hds : Completes ds ws) (address : UInt8) (arguments : List Argument) (rest : List Event) :
    (m.setDrafts s ds).run passes ((Statement.register address arguments).events ++ rest)
      = (Statement.draft? address arguments).bind fun d =>
          (m.setDrafts s (d :: ds)).run passes rest := by
  have hcur' := current?_setDrafts hcur ds
  rw [Statement.events, List.cons_append, Statement.draft?]
  cases hr : Register.ofAddress? address with
  | none =>
      rw [run_cons_eq_none, Option.bind_none, Option.bind_none]
      intro m' b h
      rcases h.close_or_filling hcur' with ⟨he, -⟩ | ⟨ds', hfill⟩
      · cases he
      · cases hfill with
        | select _ hr' =>
            rw [hr] at hr'
            cases hr'
  | some r =>
      have hready : ({ c with drafts := ds } : Container).unready? = none :=
        Container.unready?_of_completes hds
      rw [run_cons_of_silent (.filled hcur' (.select hready hr)), setDrafts_setDrafts,
        run_arguments hcur, Option.bind_some]

/-- Behind a register that is not ready nothing can come: neither a statement nor the closing. -/
lemma run_of_unready (hcur : m.current? = some (s, c)) {d : Draft} (hd : d.ready = false)
    (ds : List Draft) (body : List Statement) (rest : List Event) :
    (m.setDrafts s (d :: ds)).run passes (body.flatMap Statement.events ++ .close :: rest)
      = none := by
  have hcur' := current?_setDrafts hcur (d :: ds)
  have hunready : ({ c with drafts := d :: ds } : Container).unready? ≠ none := by
    simp [Container.unready?, hd]
  cases body with
  | nil =>
      refine run_cons_eq_none (fun m' b h => ?_) _
      rcases h.close_or_filling hcur' with ⟨-, -, hready⟩ | ⟨ds', hfill⟩
      · exact hunready hready
      · cases hfill
  | cons st body =>
      cases st with
      | register address arguments =>
          refine run_cons_eq_none (fun m' b h => ?_) _
          rcases h.close_or_filling hcur' with ⟨he, -⟩ | ⟨ds', hfill⟩
          · cases he
          · cases hfill with
            | select hready _ => exact hunready hready
      | insertion name offset =>
          refine run_cons_eq_none (fun m' b h => ?_) _
          rcases h.close_or_filling hcur' with ⟨he, -⟩ | ⟨ds', hfill⟩
          · cases he
          · cases hfill with
            | insert hready _ _ _ => exact hunready hready

/-! ## Macros -/

lemma macroWrites?_eq_some_iff {name : String} {ws : List Write} :
    m.macroWrites? name = some ws ↔ ∃ i c, m.slot? name = some ⟨.macroDef, i⟩ ∧
      m.active ≠ some ⟨.macroDef, i⟩ ∧ m.container? ⟨.macroDef, i⟩ = some c ∧
      Completes c.drafts ws := by
  simp only [macroWrites?, Option.bind_eq_bind, Option.bind_eq_some_iff]
  constructor
  · rintro ⟨⟨kind, i⟩, hslot, h⟩
    split_ifs at h with hkind
    obtain ⟨rfl, hclosed⟩ := hkind
    obtain ⟨c, hc, hws⟩ := Option.bind_eq_some_iff.mp h
    refine ⟨i, c, hslot, hclosed, hc, Container.complete_eq_ok_iff.mp ?_⟩
    cases hcomplete : c.complete with
    | error r => simp [hcomplete, Except.toOption] at hws
    | ok ws' =>
        rw [hcomplete] at hws
        exact congrArg Except.ok (Option.some.inj hws)
  · rintro ⟨i, c, hslot, hclosed, hc, hws⟩
    refine ⟨⟨.macroDef, i⟩, hslot, ?_⟩
    rw [if_pos ⟨rfl, hclosed⟩, hc, Option.bind_some, Container.complete_eq_ok_iff.mpr hws]
    rfl

/-- What is in the open container does not matter to the macros. -/
lemma macroWrites?_setDrafts (hs : m.active = some s) (ds : List Draft) (name : String) :
    (m.setDrafts s ds).macroWrites? name = m.macroWrites? name := by
  refine Option.ext fun ws => ?_
  rw [macroWrites?_eq_some_iff, macroWrites?_eq_some_iff]
  simp only [slot?_setDrafts, active_setDrafts, container?_setDrafts]
  constructor
  · rintro ⟨i, c, hslot, hclosed, hc, hws⟩
    rw [if_neg (fun hi => hclosed (by rw [hs, hi]))] at hc
    exact ⟨i, c, hslot, hclosed, hc, hws⟩
  · rintro ⟨i, c, hslot, hclosed, hc, hws⟩
    refine ⟨i, c, hslot, hclosed, ?_, hws⟩
    rw [if_neg (fun hi => hclosed (by rw [hs, hi])), hc]

/-- An insertion is accepted exactly if there is such a macro, and adds its moved writes. -/
lemma run_insertion (passes : Passes) (inv : m.Invariant) (hcur : m.current? = some (s, c))
    {ds : List Draft} {ws : List Write} (hds : Completes ds ws) {name : String}
    {inserted : List Write} (hname : m.macroWrites? name = some inserted) (offset : Option Vec2) :
    ∃ ds', ds' ≠ [] ∧ Completes ds' (ws ++ moved offset inserted) ∧
      ∀ rest, (m.setDrafts s ds).run passes ((Statement.insertion name offset).events ++ rest)
        = (m.setDrafts s ds').run passes rest := by
  obtain ⟨hs, -⟩ := current?_eq_some_iff.mp hcur
  obtain ⟨i, source, hslot, hclosed, hsource, hinserted⟩ := macroWrites?_eq_some_iff.mp hname
  have hready : ({ c with drafts := ds } : Container).unready? = none :=
    Container.unready?_of_completes hds
  have hcopy : Completes (insertedDrafts offset source.drafts) (moved offset inserted) := by
    cases offset with
    | none => exact hinserted
    | some off => exact hinserted.map_shift off
  refine ⟨insertedDrafts offset source.drafts ++ ds, ?_, hds.append hcopy, fun rest => ?_⟩
  · have hne := inv.closedNonempty hsource hclosed
    cases offset <;> simp [insertedDrafts, hne]
  · have hsource' : (m.setDrafts s ds).container? ⟨.macroDef, i⟩ = some source := by
      rw [container?_setDrafts, if_neg (fun hi => hclosed (by rw [hs, hi])), hsource]
    have hfill : (m.setDrafts s ds).Filling { c with drafts := ds } (.insert name offset)
        (insertedDrafts offset source.drafts ++ ds) :=
      .insert hready (by simpa using hslot) (by simpa using hclosed) hsource'
    rw [Statement.events, List.singleton_append,
      run_cons_of_silent (.filled (current?_setDrafts hcur ds) hfill), setDrafts_setDrafts]

lemma run_insertion_eq_none (inv : m.Invariant) (hcur : m.current? = some (s, c)) (ds : List Draft)
    {name : String} (hname : m.macroWrites? name = none) (offset : Option Vec2)
    (rest : List Event) :
    (m.setDrafts s ds).run passes ((Statement.insertion name offset).events ++ rest) = none := by
  obtain ⟨hs, -⟩ := current?_eq_some_iff.mp hcur
  refine run_cons_eq_none (fun m' b h => ?_) _
  rcases h.close_or_filling (current?_setDrafts hcur ds) with ⟨he, -⟩ | ⟨ds', hfill⟩
  · cases he
  · cases hfill with
    | insert _ hslot hclosed hstored =>
        rw [slot?_setDrafts] at hslot
        rw [active_setDrafts] at hclosed
        rw [container?_setDrafts, if_neg (fun hi => hclosed (by rw [hs, hi]))] at hstored
        obtain ⟨ws, hws⟩ := exists_completes (inv.closedReady hstored hclosed)
        rw [macroWrites?_eq_some_iff.mpr ⟨_, _, hslot, hclosed, hstored, hws⟩] at hname
        cases hname

/-! ## Statements -/

lemma run_statement_of_valid (passes : Passes) (inv : m.Invariant)
    (hcur : m.current? = some (s, c)) {macros : Macros}
    (hmacros : ∀ name, m.macroWrites? name = macros.lookup name)
    {ds : List Draft} {ws : List Write} (hds : Completes ds ws) {st : Statement}
    (hst : st.Valid macros) :
    ∃ ds', ds' ≠ [] ∧ Completes ds' (ws ++ st.expand macros) ∧
      ∀ rest, (m.setDrafts s ds).run passes (st.events ++ rest)
        = (m.setDrafts s ds').run passes rest := by
  cases st with
  | register address arguments =>
      obtain ⟨r, d, hr, hd, hready⟩ := hst
      obtain ⟨w, hw⟩ := Option.isSome_iff_exists.mp hready
      have hdraft : Statement.draft? address arguments = some d := by
        rw [Statement.draft?, hr, Option.bind_some, hd]
      refine ⟨d :: ds, List.cons_ne_nil _ _, ?_, fun rest => ?_⟩
      · rw [Statement.expand, hdraft, Option.bind_some, hw]
        exact hds.append (.singleton hw)
      · rw [run_register hcur hds, hdraft, Option.bind_some]
  | insertion name offset =>
      obtain ⟨inserted, hinserted⟩ := Option.isSome_iff_exists.mp hst
      rw [Statement.expand, hinserted, Option.getD_some]
      exact run_insertion passes inv hcur hds ((hmacros name).trans hinserted) offset

lemma run_statement_of_invalid (inv : m.Invariant) (hcur : m.current? = some (s, c))
    {macros : Macros} (hmacros : ∀ name, m.macroWrites? name = macros.lookup name)
    {ds : List Draft} {ws : List Write} (hds : Completes ds ws) {st : Statement}
    (hst : ¬ st.Valid macros) (body : List Statement) :
    (m.setDrafts s ds).run passes (st.events ++ (body.flatMap Statement.events ++ [.close]))
      = none := by
  cases st with
  | register address arguments =>
      rw [run_register hcur hds]
      cases hdraft : Statement.draft? address arguments with
      | none => rfl
      | some d =>
          -- All arguments were taken, so the register is left unready, and something comes next.
          obtain ⟨r, hr, hd⟩ := Option.bind_eq_some_iff.mp hdraft
          have hunready : d.ready = false := by
            rw [Bool.eq_false_iff]
            exact fun hready => hst ⟨r, d, hr, hd, hready⟩
          exact run_of_unready hcur hunready ds body []
  | insertion name offset =>
      have hname : macros.lookup name = none := by
        rwa [Statement.Valid, Option.not_isSome_iff_eq_none] at hst
      exact run_insertion_eq_none inv hcur ds ((hmacros name).trans hname) offset _

lemma run_body_of_valid (passes : Passes) (inv : m.Invariant)
    (hcur : m.current? = some (s, c)) {macros : Macros}
    (hmacros : ∀ name, m.macroWrites? name = macros.lookup name)
    {ds : List Draft} {ws : List Write} (hds : Completes ds ws) {body : List Statement}
    (hbody : ∀ st ∈ body, st.Valid macros) :
    ∃ ds', (ds' = [] → ds = [] ∧ body = []) ∧
      Completes ds' (ws ++ body.flatMap (Statement.expand macros)) ∧
      ∀ rest, (m.setDrafts s ds).run passes (body.flatMap Statement.events ++ rest)
        = (m.setDrafts s ds').run passes rest := by
  induction body generalizing ds ws with
  | nil => exact ⟨ds, by simp, by simpa using hds, fun rest => rfl⟩
  | cons st body ih =>
      obtain ⟨ds₁, hne₁, hds₁, hrun₁⟩ :=
        run_statement_of_valid passes inv hcur hmacros hds (hbody st (by simp))
      obtain ⟨ds₂, hne₂, hds₂, hrun₂⟩ := ih hds₁ fun st' hst' => hbody st' (by simp [hst'])
      refine ⟨ds₂, fun hnil => absurd (hne₂ hnil).1 hne₁, by simpa using hds₂, fun rest => ?_⟩
      rw [List.flatMap_cons, List.append_assoc, hrun₁, hrun₂]

lemma run_body_of_invalid (inv : m.Invariant) (hcur : m.current? = some (s, c))
    {macros : Macros} (hmacros : ∀ name, m.macroWrites? name = macros.lookup name)
    {ds : List Draft} {ws : List Write} (hds : Completes ds ws) {body : List Statement}
    (hbody : ¬ ∀ st ∈ body, st.Valid macros) :
    (m.setDrafts s ds).run passes (body.flatMap Statement.events ++ [.close]) = none := by
  induction body generalizing ds ws with
  | nil => simp at hbody
  | cons st body ih =>
      rw [List.flatMap_cons, List.append_assoc]
      by_cases hst : st.Valid macros
      · obtain ⟨ds₁, -, hds₁, hrun₁⟩ := run_statement_of_valid passes inv hcur hmacros hds hst
        rw [hrun₁]
        exact ih hds₁ fun hall => hbody (List.forall_mem_cons.mpr ⟨hst, hall⟩)
      · exact run_statement_of_invalid inv hcur hmacros hds hst body

/-! ## Definitions -/

/-- The machine is idle and knows exactly the names and macros of the program. -/
structure Holds (m : Machine) (p : Program) : Prop where
  inv : m.Invariant
  idle : m.active = none
  names (name : String) : m.slot? name = none ↔ name ∉ p.map Definition.name
  macros (name : String) : m.macroWrites? name = p.macros.lookup name

lemma Holds.initial : Holds {} [] where
  inv := .initial
  idle := rfl
  names name := by simp [slot?]
  macros name := rfl

/-- The macros are the same right after a container has been opened. -/
lemma macroWrites?_openNew (hidle : m.active = none) (kind : ContainerKind) {name : String}
    (hfresh : m.slot? name = none) (other : String) :
    (m.openNew kind name).macroWrites? other = m.macroWrites? other := by
  refine Option.ext fun ws => ?_
  rw [macroWrites?_eq_some_iff, macroWrites?_eq_some_iff]
  constructor
  · rintro ⟨i, c, hslot, hclosed, hc, hws⟩
    rw [active_openNew] at hclosed
    rw [container?_openNew, if_neg (fun hi => hclosed (by rw [hi]))] at hc
    rw [slot?_openNew] at hslot
    split_ifs at hslot with hname
    · exact absurd hslot hclosed
    · exact ⟨i, c, hslot, by simp [hidle], hc, hws⟩
  · rintro ⟨i, c, hslot, -, hc, hws⟩
    have hname : other ≠ name := by
      rintro rfl
      rw [hfresh] at hslot
      cases hslot
    have hi : (⟨.macroDef, i⟩ : Slot) ≠ ⟨kind, (m.arena kind).size⟩ := by
      intro hi
      rw [hi, Invariant.container?_size] at hc
      cases hc
    refine ⟨i, c, ?_, ?_, ?_, hws⟩
    · rw [slot?_openNew, if_neg hname, hslot]
    · rw [active_openNew]
      exact fun h => hi (Option.some.inj h).symm
    · rw [container?_openNew, if_neg hi, hc]

/-- Closing a macro adds it to the macros, and closing a block adds nothing. -/
lemma macroWrites?_idle (inv : m.Invariant) (hcur : m.current? = some (s, c)) {ws : List Write}
    (hws : Completes c.drafts ws) (name : String) :
    m.idle.macroWrites? name =
      if s.kind = .macroDef ∧ name = c.name then some ws else m.macroWrites? name := by
  obtain ⟨hs, hc⟩ := current?_eq_some_iff.mp hcur
  have hslot := inv.listed hc
  split_ifs with h
  · obtain ⟨hkind, rfl⟩ := h
    obtain ⟨kind, i⟩ := s
    obtain rfl : kind = .macroDef := hkind
    exact macroWrites?_eq_some_iff.mpr ⟨i, c, hslot, by simp, by simpa using hc, hws⟩
  · refine Option.ext fun ws' => ?_
    rw [macroWrites?_eq_some_iff, macroWrites?_eq_some_iff]
    simp only [slot?_idle, active_idle, container?_idle]
    constructor
    · rintro ⟨i, c', hslot', -, hc', hws'⟩
      refine ⟨i, c', hslot', ?_, hc', hws'⟩
      rw [hs]
      rintro ⟨rfl⟩
      rw [hc] at hc'
      cases hc'
      obtain ⟨c', hc', hname⟩ := inv.named hslot'
      rw [hc] at hc'
      cases hc'
      exact h ⟨rfl, hname.symm⟩
    · rintro ⟨i, c', hslot', -, hc', hws'⟩
      exact ⟨i, c', hslot', by simp, hc', hws'⟩

/-- The machine with the definition open and these drafts in it. -/
def inside (m : Machine) (d : Definition) (ds : List Draft) : Machine :=
  (m.openNew d.kind d.name).setDrafts ⟨d.kind, (m.arena d.kind).size⟩ ds

namespace Holds

variable {p : Program} {d : Definition}

lemma slot?_eq_none (h : m.Holds p) (hd : d.name ∉ p.map Definition.name) :
    m.slot? d.name = none :=
  (h.names d.name).mpr hd

lemma invariant_openNew (h : m.Holds p) (hd : d.name ∉ p.map Definition.name) :
    (m.openNew d.kind d.name).Invariant :=
  h.inv.openNew h.idle d.kind (h.slot?_eq_none hd)

lemma macroWrites?_openNew (h : m.Holds p) (hd : d.name ∉ p.map Definition.name) (name : String) :
    (m.openNew d.kind d.name).macroWrites? name = p.macros.lookup name :=
  (Machine.macroWrites?_openNew h.idle d.kind (h.slot?_eq_none hd) name).trans (h.macros name)

lemma current?_openNew (m : Machine) (d : Definition) :
    (m.openNew d.kind d.name).current?
      = some (⟨d.kind, (m.arena d.kind).size⟩, { name := d.name }) := by
  rw [current?_eq_some_iff, active_openNew, container?_openNew, if_pos rfl]
  exact ⟨rfl, rfl⟩

lemma current?_inside (m : Machine) (d : Definition) (ds : List Draft) :
    (m.inside d ds).current?
      = some (⟨d.kind, (m.arena d.kind).size⟩, { name := d.name, drafts := ds }) :=
  current?_setDrafts (current?_openNew m d) ds

lemma inside_nil (m : Machine) (d : Definition) : m.inside d [] = m.openNew d.kind d.name :=
  setDrafts_drafts (current?_eq_some_iff.mp (current?_openNew m d)).2

lemma run_opened (h : m.Holds p) (hd : d.name ∉ p.map Definition.name) :
    m.run passes d.events
      = (m.inside d []).run passes (d.body.flatMap Statement.events ++ [.close]) := by
  have hidle : m.current? = none := current?_of_active_none h.idle
  rw [Definition.events, run_cons_of_silent (.opened hidle (h.slot?_eq_none hd)), inside_nil]

/-- What is left when the definition is closed. -/
lemma close (h : m.Holds p) (hd : d.Fits p) {ds : List Draft} (hne : ds ≠ [])
    (hds : Completes ds (d.expand p.macros)) : (m.inside d ds).idle.Holds (p ++ [d]) := by
  have hcur := current?_inside m d ds
  have hready : ({ name := d.name, drafts := ds } : Container).unready? = none :=
    Container.unready?_of_completes hds
  have hinv : (m.inside d ds).Invariant :=
    (h.invariant_openNew hd.fresh).setDrafts (current?_openNew m d)
      fun d' hd' => hds.ready d' (List.mem_of_mem_tail hd')
  refine ⟨hinv.idle hcur hne hready, rfl, fun name => ?_, fun name => ?_⟩
  · rw [slot?_idle, inside, slot?_setDrafts, slot?_openNew]
    split_ifs with hname
    · simp [hname]
    · simp [h.names name, hname]
  · rw [macroWrites?_idle hinv hcur hds, inside, macroWrites?_setDrafts (active_openNew _ _ _),
      h.macroWrites?_openNew hd.fresh, Program.macros_concat]
    cases hk : d.kind with
    | block => simp [Definition.define, hk]
    | macroDef =>
        by_cases hname : name = d.name
        · simp [Definition.define, hk, hname]
        · simp [Definition.define, hk, hname, List.lookup_cons, beq_false_of_ne hname]

lemma advance_close (m : Machine) {ms : Macros} {ds : List Draft} (hne : ds ≠ [])
    (hds : Completes ds (d.expand ms)) :
    Advance passes (m.inside d ds) .close (m.inside d ds).idle
      ((d.block? ms).map (Block.optimized passes)) := by
  have hcur := current?_inside m d ds
  have hready : ({ name := d.name, drafts := ds } : Container).unready? = none :=
    Container.unready?_of_completes hds
  cases hk : d.kind with
  | block =>
      rw [Definition.block?, hk]
      rw [hk] at hcur
      exact .closedBlock hcur hne hready (Container.complete_eq_ok_iff.mpr hds)
  | macroDef =>
      rw [Definition.block?, hk]
      rw [hk] at hcur
      exact .closedMacro hcur hne hready

/-- **A definition that fits is accepted**, and hands over its expansion, cleaned up. -/
theorem run_definition (h : m.Holds p) (hd : d.Fits p) (passes : Passes) :
    ∃ m', m'.Holds (p ++ [d]) ∧ m.run passes d.events
      = some (m', (d.block? p.macros).toList.map (Block.optimized passes)) := by
  obtain ⟨ds, hne, hds, hrun⟩ := run_body_of_valid passes (h.invariant_openNew hd.fresh)
    (current?_openNew m d) (h.macroWrites?_openNew hd.fresh) Completes.nil hd.valid
  have hne' : ds ≠ [] := fun hnil => hd.nonempty (hne hnil).2
  refine ⟨(m.inside d ds).idle, h.close hd hne' hds, ?_⟩
  rw [h.run_opened hd.fresh, inside, hrun, ← inside,
    run_cons_of_advance (advance_close m hne' hds)]
  cases d.block? p.macros <;> rfl

/-- **A definition that does not fit is refused.** -/
theorem run_definition_eq_none (h : m.Holds p) (hd : ¬ d.Fits p) :
    m.run passes d.events = none := by
  by_cases hfresh : d.name ∈ p.map Definition.name
  · refine run_cons_eq_none (fun m' b hadv => ?_) _
    have hslot : m.slot? d.name ≠ none := fun hslot => (h.names d.name).mp hslot hfresh
    have hidle : m.current? = none := current?_of_active_none h.idle
    generalize he : d.kind.startEvent d.name = e at hadv
    cases hadv with
    | @opened kind name _ hslot' =>
        have hname : d.name = name := by
          cases hk : d.kind <;> cases kind <;> simp_all [ContainerKind.startEvent]
        exact hslot (hname ▸ hslot')
    | closedMacro hcur _ _ => simp [hidle] at hcur
    | closedBlock hcur _ _ _ => simp [hidle] at hcur
    | filled hcur _ => simp [hidle] at hcur
  · rw [h.run_opened hfresh]
    by_cases hvalid : ∀ st ∈ d.body, st.Valid p.macros
    · -- All that can be wrong is that there is no statement.
      have hnil : d.body = [] := by
        by_contra hne
        exact hd ⟨hfresh, hne, hvalid⟩
      rw [hnil]
      refine run_cons_eq_none (fun m' b hadv => ?_) _
      rcases hadv.close_or_filling (current?_inside m d []) with ⟨-, hne, -⟩ | ⟨ds', hfill⟩
      · exact hne rfl
      · cases hfill
    · exact run_body_of_invalid (h.invariant_openNew hfresh) (current?_openNew m d)
        (h.macroWrites?_openNew hfresh) Completes.nil hvalid

end Holds

/-! ## Programs -/

/-- **A well-formed program runs through** and hands over its expansion, block by block cleaned
up. -/
theorem run_events {p : Program} (h : p.WellFormed) (passes : Passes) :
    ∃ m, m.Holds p ∧
      run passes {} p.events = some (m, p.expansion.map (Block.optimized passes)) := by
  induction p using List.reverseRecOn with
  | nil => exact ⟨{}, .initial, rfl⟩
  | append_singleton p d ih =>
      obtain ⟨hp, hd⟩ := Program.wellFormed_concat_iff.mp h
      obtain ⟨m, hm, hrun⟩ := ih hp
      obtain ⟨m', hm', hrun'⟩ := hm.run_definition hd passes
      refine ⟨m', hm', ?_⟩
      rw [Program.events_concat, run_append, hrun, Program.expansion_concat, List.map_append]
      simp only [Option.bind_some, hrun', Option.map_some]

/-- **No other program runs through.** -/
theorem run_events_eq_none {p : Program} (h : ¬ p.WellFormed) (passes : Passes) :
    run passes {} p.events = none := by
  induction p using List.reverseRecOn with
  | nil => exact absurd Program.wellFormed_nil h
  | append_singleton p d ih =>
      rw [Program.events_concat, run_append]
      by_cases hp : Program.WellFormed p
      · obtain ⟨m, hm, hrun⟩ := run_events hp passes
        have hd : ¬ d.Fits p := fun hd => h (hp.concat hd)
        rw [hrun]
        simp only [Option.bind_some, hm.run_definition_eq_none hd, Option.map_none]
      · rw [ih hp, Option.bind_none]

end Machine

/-- Offsets of nested insertions add up: to insert a macro that is nothing but the moved copy of
another one is to insert that one, moved by both offsets together. -/
lemma Statement.expand_insertion_insertion (macros : Macros) (outer inner : String) (a b : Vec2) :
    expand ((outer, expand macros (.insertion inner (some a))) :: macros)
        (.insertion outer (some b))
      = expand macros (.insertion inner (some (a.add b))) := by
  simp [expand, moved, Write.shift_shift, Function.comp_def]

/-- **The machine computes the expansion.**  Feeding the events of a program to a fresh machine with
an emitter that never refuses succeeds exactly if the program is well-formed.  Then the emitter gets
the blocks of the program's expansion in order, each cleaned up; and in an expansion offsets of
nested insertions add up. -/
theorem Program.feed_events {τ : Type} (passes : Passes) (emitter : Emitter τ)
    (hemitter : ∀ t b, (emitter.emit t b).2.2 = none) (t : τ) (p : Program) :
    let fed := Trace.feed { items := p.events.map (.event .bare) } (Assembly.sink passes emitter)
      { target := t }
    (fed.2 = none ↔ p.WellFormed) ∧
    (p.WellFormed → fed.1.target =
      (p.expansion.map fun b => (b.optimize passes).1).foldl (fun t b => (emitter.emit t b).1) t) ∧
    ∀ macros outer inner a b,
      Statement.expand ((outer, Statement.expand macros (.insertion inner (some a))) :: macros)
          (.insertion outer (some b))
        = Statement.expand macros (.insertion inner (some (a.add b))) := by
  intro fed
  have hfeed := feed_eq_none_iff passes emitter { items := p.events.map (.event .bare) } t
  simp only [Trace.events, TraceItem.events_map_event, true_and] at hfeed
  have haccepted : p.WellFormed → fed.2 = none ∧ fed.1.target =
      (p.expansion.map fun b => (b.optimize passes).1).foldl
        (fun t b => (emitter.emit t b).1) t := by
    intro hp
    obtain ⟨m, -, hrun⟩ := Machine.run_events hp passes
    obtain ⟨notes, hfed⟩ := (hfeed _ m).mpr ⟨_, hrun, Emitter.emitAll_eq_foldl hemitter t _⟩
    exact ⟨congrArg Prod.snd hfed, congrArg (fun fed => fed.1.target) hfed⟩
  refine ⟨⟨fun hnone => ?_, fun hp => (haccepted hp).1⟩, fun hp => (haccepted hp).2,
    Statement.expand_insertion_insertion⟩
  by_contra hp
  obtain ⟨bs, hrun, -⟩ := (hfeed fed.1.target fed.1.machine).mp ⟨fed.1.notes, Prod.ext rfl hnone⟩
  rw [Machine.run_events_eq_none hp] at hrun
  cases hrun

/-- A vertex, a macro that inserts it moved, and a block that inserts that one moved again, behind a
setting that is overwritten at once. -/
def Program.nested : Program :=
  [⟨.macroDef, "corner", [.register 5 [.operand (.vec3 ⟨1, 2, 3⟩)]]⟩,
    ⟨.macroDef, "pair", [.insertion "corner" none, .insertion "corner" (some ⟨10, 20⟩)]⟩,
    ⟨.block, "shape",
      [.register 0 [.modifier (.ofTopology ⟨3⟩)], .register 0 [.modifier (.ofTopology .sprite)],
        .insertion "pair" (some ⟨0xFFFFFFFF, 5⟩)]⟩]

/-- The block of the nested program: one setting in the tag, and two vertices, of which one has been
moved twice and around the end of the cell. -/
theorem Program.feed_events_nested :
    (∀ t b, (Emitter.collect.emit t b).2.2 = none) ∧ nested.WellFormed ∧
      (Trace.feed { items := nested.events.map (.event .bare) }
        (Assembly.sink .all .collect) { target := [] }).1.target
      = [{ name := "shape", tagPrim := some { topology := .sprite }, primIndex := 0
           writes := [.xyz2 ⟨0, 7, 3⟩, .xyz2 ⟨10, 27, 3⟩] }] := by
  have hcollect : ∀ t b, (Emitter.collect.emit t b).2.2 = none := fun _ _ => rfl
  obtain ⟨hiff, htarget, -⟩ := feed_events .all .collect hcollect [] nested
  have hwf : nested.WellFormed := hiff.mp (by decide)
  exact ⟨hcollect, hwf, (htarget hwf).trans (by decide)⟩

end RegisterScript
