import RegisterScript.Proofs.Filling
import RegisterScript.Proofs.MachineStep

/-!
# What stays true of the machine

The machine keeps its containers in two arenas, finds them by name, and fills the newest one.
`Machine.Invariant` says how these parts belong together, and `Invariant.advance` that no accepted
event breaks it.

**Completed drafts.**  `Completes ds ws` relates the drafts of a container, newest first, to the
writes they complete to, in order; it grows on both sides at once (`Completes.append`), also by the
moved copy of a macro (`Completes.map_shift`).

**Runs.**  `run_induction` is the one induction over the events of a run.  From it: the blocks that
were handed over are the closed ones, in order (`map_name_eq_closedBlocks`), no two have the same
name (`Invariant.nodup_closedBlocks`), and each is what the clean-up leaves of a list of writes
that is not empty and that a script can ask for (`exists_writes_of_mem`).
-/

namespace RegisterScript

/-! ## Completed drafts -/

/-- The drafts `ds`, newest first, complete to the writes `ws`, in order. -/
def Completes (ds : List Draft) (ws : List Write) : Prop :=
  ds.reverse.map Draft.complete? = ws.map some

namespace Completes

lemma nil : Completes [] [] := rfl

lemma singleton {d : Draft} {w : Write} (h : d.complete? = some w) : Completes [d] [w] := by
  simp [Completes, h]

lemma append {ds ds' : List Draft} {ws ws' : List Write} (h : Completes ds ws)
    (h' : Completes ds' ws') : Completes (ds' ++ ds) (ws ++ ws') := by
  rw [Completes] at h h' ⊢
  rw [List.reverse_append, List.map_append, List.map_append, h, h']

lemma map_shift {ds : List Draft} {ws : List Write} (h : Completes ds ws) (offset : Vec2) :
    Completes (ds.map (Draft.shift offset)) (ws.map (Write.shift offset)) := by
  rw [Completes] at h ⊢
  calc (ds.map (Draft.shift offset)).reverse.map Draft.complete?
      = (ds.reverse.map Draft.complete?).map (Option.map (Write.shift offset)) := by
        simp [List.map_reverse, Function.comp_def, Draft.complete?_shift]
    _ = (ws.map (Write.shift offset)).map some := by
        rw [h]
        simp [Function.comp_def]

lemma ready {ds : List Draft} {ws : List Write} (h : Completes ds ws) :
    ∀ d ∈ ds, d.ready = true := by
  intro d hd
  have hmem : d.complete? ∈ ds.reverse.map Draft.complete? :=
    List.mem_map_of_mem (List.mem_reverse.mpr hd)
  rw [h] at hmem
  obtain ⟨w, -, hw⟩ := List.mem_map.mp hmem
  rw [Draft.ready, ← hw]
  rfl

lemma eq_nil_iff {ds : List Draft} {ws : List Write} (h : Completes ds ws) :
    ws = [] ↔ ds = [] := by
  have hlen := congrArg List.length h
  simp only [List.length_map, List.length_reverse] at hlen
  rw [← List.length_eq_zero_iff, ← List.length_eq_zero_iff, hlen]

/-- Each of the writes is what one of the drafts completes to. -/
lemma exists_draft {ds : List Draft} {ws : List Write} (h : Completes ds ws) {w : Write}
    (hw : w ∈ ws) : ∃ d ∈ ds, d.complete? = some w := by
  have hmem : some w ∈ ws.map some := List.mem_map_of_mem hw
  rw [← h] at hmem
  obtain ⟨d, hd, hdw⟩ := List.mem_map.mp hmem
  exact ⟨d, List.mem_reverse.mp hd, hdw⟩

end Completes

lemma exists_completes {ds : List Draft} (h : ∀ d ∈ ds, d.ready = true) :
    ∃ ws, Completes ds ws := by
  induction ds with
  | nil => exact ⟨[], .nil⟩
  | cons d ds ih =>
      obtain ⟨ws, hws⟩ := ih fun d' hd' => h d' (List.mem_cons_of_mem d hd')
      obtain ⟨w, hw⟩ := Option.isSome_iff_exists.mp (h d List.mem_cons_self)
      exact ⟨ws ++ [w], hws.append (.singleton hw)⟩

lemma mapM_complete?_eq_ok_iff (ds : List Draft) (ws : List Write) :
    (ds.mapM fun d => match d.complete? with
      | some w => Except.ok w
      | none => Except.error d.register) = .ok ws ↔ ds.map Draft.complete? = ws.map some := by
  induction ds generalizing ws with
  | nil => cases ws <;> simp [pure, Except.pure]
  | cons d ds ih =>
      rw [List.mapM_cons]
      cases hd : d.complete? with
      | none => cases ws <;> simp [bind, Except.bind, hd]
      | some w =>
          cases hds : ds.mapM fun d => match d.complete? with
              | some w => Except.ok w
              | none => Except.error d.register with
          | error r => cases ws <;> simp [bind, Except.bind, hd, ← ih, hds]
          | ok rest => cases ws <;> simp [bind, Except.bind, pure, Except.pure, hd, ← ih, hds]

namespace Container

lemma complete_eq_ok_iff {c : Container} {ws : List Write} :
    c.complete = .ok ws ↔ Completes c.drafts ws :=
  mapM_complete?_eq_ok_iff c.drafts.reverse ws

lemma unready?_eq_none_iff {c : Container} :
    c.unready? = none ↔ ∀ d, c.drafts.head? = some d → d.ready = true := by
  rw [unready?]
  cases c.drafts with
  | nil => simp
  | cons last earlier => simp

lemma unready?_of_completes {c : Container} {ws : List Write} (h : Completes c.drafts ws) :
    c.unready? = none := by
  rw [unready?_eq_none_iff]
  exact fun d hd => h.ready d (List.mem_of_mem_head? hd)

end Container

/-! ## The invariant -/

namespace Machine

/-- How the parts of the machine belong together. -/
structure Invariant (m : Machine) : Prop where
  /-- A name leads to the container of that name. -/
  named {name : String} {s : Slot} (h : m.slot? name = some s) :
    ∃ c, m.container? s = some c ∧ c.name = name
  /-- A container is found under its name. -/
  listed {s : Slot} {c : Container} (h : m.container? s = some c) : m.slot? c.name = some s
  /-- The open container is the newest of its arena. -/
  newest {s : Slot} (h : m.active = some s) : s.index + 1 = (m.arena s.kind).size
  /-- A closed container is not empty. -/
  closedNonempty {s : Slot} {c : Container} (h : m.container? s = some c)
    (hclosed : m.active ≠ some s) : c.drafts ≠ []
  /-- Everything in a closed container is ready. -/
  closedReady {s : Slot} {c : Container} (h : m.container? s = some c)
    (hclosed : m.active ≠ some s) : ∀ d ∈ c.drafts, d.ready = true
  /-- In every container only the newest draft may be unready. -/
  tailReady {s : Slot} {c : Container} (h : m.container? s = some c) :
    ∀ d ∈ c.drafts.tail, d.ready = true

namespace Invariant

variable {m : Machine}

lemma initial : ({} : Machine).Invariant where
  named h := by simp [slot?] at h
  listed {s c} h := by cases hk : s.kind <;> simp [container?, arena, hk] at h
  newest h := by simp at h
  closedNonempty {s c} h := by cases hk : s.kind <;> simp [container?, arena, hk] at h
  closedReady {s c} h := by cases hk : s.kind <;> simp [container?, arena, hk] at h
  tailReady {s c} h := by cases hk : s.kind <;> simp [container?, arena, hk] at h

/-- The open container exists. -/
lemma exists_current (inv : m.Invariant) {s : Slot} (h : m.active = some s) :
    ∃ c, m.current? = some (s, c) := by
  have hlt : s.index < (m.arena s.kind).size := by
    have := inv.newest h
    omega
  exact ⟨(m.arena s.kind)[s.index], current?_eq_some_iff.mpr ⟨h, Array.getElem?_eq_getElem hlt⟩⟩

lemma active_eq_none (inv : m.Invariant) (h : m.current? = none) : m.active = none := by
  cases hs : m.active with
  | none => rfl
  | some s =>
      obtain ⟨c, hc⟩ := inv.exists_current hs
      rw [h] at hc
      cases hc

/-- A container whose newest draft is ready is ready throughout. -/
lemma allReady (inv : m.Invariant) {s : Slot} {c : Container} (hc : m.container? s = some c)
    (hready : c.unready? = none) : ∀ d ∈ c.drafts, d.ready = true := by
  intro d hd
  have htail := inv.tailReady hc
  rw [Container.unready?_eq_none_iff] at hready
  cases hds : c.drafts with
  | nil => simp [hds] at hd
  | cons last earlier =>
      simp only [hds, List.head?_cons, Option.some.injEq, forall_eq', List.tail_cons,
        List.mem_cons] at hready htail hd
      rcases hd with rfl | hd
      · exact hready
      · exact htail d hd

/-- Nothing has been put where the next container goes. -/
lemma container?_size (m : Machine) (kind : ContainerKind) :
    m.container? ⟨kind, (m.arena kind).size⟩ = none :=
  Array.getElem?_size

lemma openNew (inv : m.Invariant) (hidle : m.active = none) (kind : ContainerKind) {name : String}
    (hfresh : m.slot? name = none) : (m.openNew kind name).Invariant where
  named {other s} h := by
    rw [slot?_openNew] at h
    rw [container?_openNew]
    split_ifs at h with hname
    · cases h
      exact ⟨{ name := name }, if_pos rfl, hname.symm⟩
    · obtain ⟨c, hc, hcname⟩ := inv.named h
      refine ⟨c, ?_, hcname⟩
      rw [if_neg, hc]
      rintro rfl
      rw [container?_size] at hc
      cases hc
  listed {s c} h := by
    rw [container?_openNew] at h
    rw [slot?_openNew]
    split_ifs at h with hs
    · cases h
      rw [if_pos rfl, hs]
    · have hslot := inv.listed h
      rw [if_neg, hslot]
      intro hname
      rw [hname, hfresh] at hslot
      cases hslot
  newest {s} h := by
    rw [active_openNew, Option.some.injEq] at h
    subst h
    rw [arena_openNew, if_pos rfl, Array.size_push]
  closedNonempty {s c} h hclosed := by
    rw [active_openNew] at hclosed
    rw [container?_openNew, if_neg (fun hs => hclosed (by rw [hs]))] at h
    exact inv.closedNonempty h (by simp [hidle])
  closedReady {s c} h hclosed := by
    rw [active_openNew] at hclosed
    rw [container?_openNew, if_neg (fun hs => hclosed (by rw [hs]))] at h
    exact inv.closedReady h (by simp [hidle])
  tailReady {s c} h := by
    rw [container?_openNew] at h
    split_ifs at h with hs
    · cases h
      simp
    · exact inv.tailReady h

lemma idle (inv : m.Invariant) {s : Slot} {c : Container} (hcur : m.current? = some (s, c))
    (hne : c.drafts ≠ []) (hready : c.unready? = none) : m.idle.Invariant where
  named h := by
    simpa using inv.named h
  listed h := inv.listed (by simpa using h)
  newest h := by simp at h
  closedNonempty {s' c'} h _ := by
    rw [container?_idle] at h
    obtain ⟨hs, hc⟩ := current?_eq_some_iff.mp hcur
    by_cases hs' : s' = s
    · subst hs'
      rw [hc] at h
      cases h
      exact hne
    · exact inv.closedNonempty h (by simpa [hs] using Ne.symm hs')
  closedReady {s' c'} h _ := by
    rw [container?_idle] at h
    obtain ⟨hs, hc⟩ := current?_eq_some_iff.mp hcur
    by_cases hs' : s' = s
    · subst hs'
      rw [hc] at h
      cases h
      exact inv.allReady hc hready
    · exact inv.closedReady h (by simpa [hs] using Ne.symm hs')
  tailReady h := inv.tailReady (by simpa using h)

lemma setDrafts (inv : m.Invariant) {s : Slot} {c : Container} (hcur : m.current? = some (s, c))
    {ds : List Draft} (htail : ∀ d ∈ ds.tail, d.ready = true) :
    (m.setDrafts s ds).Invariant := by
  obtain ⟨hs, hc⟩ := current?_eq_some_iff.mp hcur
  have hclosed : ∀ {s' : Slot}, m.active ≠ some s' → s' ≠ s := by
    rintro s' h rfl
    exact h hs
  constructor
  case named =>
    intro name s' h
    rw [slot?_setDrafts] at h
    obtain ⟨c', hc', hname⟩ := inv.named h
    rw [container?_setDrafts]
    split_ifs with hs'
    · subst hs'
      exact ⟨{ c' with drafts := ds }, by rw [hc', Option.map_some], hname⟩
    · exact ⟨c', hc', hname⟩
  case listed =>
    intro s' c' h
    rw [slot?_setDrafts]
    rw [container?_setDrafts] at h
    split_ifs at h with hs'
    · subst hs'
      rw [hc, Option.map_some, Option.some.injEq] at h
      subst h
      exact (inv.listed hc : m.slot? c.name = some s')
    · exact inv.listed h
  case newest =>
    intro s' h
    rw [active_setDrafts] at h
    rw [size_arena_setDrafts]
    exact inv.newest h
  case closedNonempty =>
    intro s' c' h hact
    rw [active_setDrafts] at hact
    rw [container?_setDrafts, if_neg (hclosed hact)] at h
    exact inv.closedNonempty h hact
  case closedReady =>
    intro s' c' h hact
    rw [active_setDrafts] at hact
    rw [container?_setDrafts, if_neg (hclosed hact)] at h
    exact inv.closedReady h hact
  case tailReady =>
    intro s' c' h
    rw [container?_setDrafts] at h
    split_ifs at h with hs'
    · subst hs'
      rw [hc, Option.map_some, Option.some.injEq] at h
      subst h
      exact htail
    · exact inv.tailReady h

/-- Whatever fills the open container leaves at most its newest draft unready. -/
lemma tailReady_of_filling (inv : m.Invariant) {s : Slot} {c : Container}
    (hcur : m.current? = some (s, c)) {e : Event} {ds : List Draft} (hfill : m.Filling c e ds) :
    ∀ d ∈ ds.tail, d.ready = true := by
  obtain ⟨hs, hc⟩ := current?_eq_some_iff.mp hcur
  cases hfill with
  | select hready _ => exact inv.allReady hc hready
  | push hlast _ => simpa [hlast] using inv.tailReady hc
  | modify hlast _ => simpa [hlast] using inv.tailReady hc
  | @insert name offset i inserted hready _ hclosed hstored =>
      intro d hd
      have hinserted : ∀ d ∈ insertedDrafts offset inserted.drafts, d.ready = true := by
        have hready' := inv.closedReady hstored hclosed
        cases offset with
        | none => exact hready'
        | some off => simpa [insertedDrafts] using hready'
      rcases List.mem_append.mp (List.mem_of_mem_tail hd) with hd | hd
      · exact hinserted d hd
      · exact inv.allReady hc hready d hd

/-- **An accepted event keeps the invariant.** -/
theorem advance (inv : m.Invariant) {passes : Passes} {e : Event} {m' : Machine}
    {b : Option Block} (h : Advance passes m e m' b) : m'.Invariant := by
  cases h with
  | opened hidle hfresh => exact inv.openNew (inv.active_eq_none hidle) _ hfresh
  | closedMacro hcur hne hready => exact inv.idle hcur hne hready
  | closedBlock hcur hne hready _ => exact inv.idle hcur hne hready
  | filled hcur hfill => exact inv.setDrafts hcur (inv.tailReady_of_filling hcur hfill)

end Invariant

/-! ## Runs -/

/-- **Induction over the events of a run.**  What holds of a fresh machine and is kept by every
accepted event holds after every run. -/
theorem run_induction {passes : Passes} {P : List Event → Machine → List Block → Prop}
    (hinit : P [] {} [])
    (hstep : ∀ {es m bs e m' b}, m.Invariant → P es m bs → Advance passes m e m' b →
      P (es ++ [e]) m' (bs ++ b.toList))
    {es : List Event} {m : Machine} {bs : List Block}
    (h : run passes {} es = some (m, bs)) : m.Invariant ∧ P es m bs := by
  induction es using List.reverseRecOn generalizing m bs with
  | nil =>
      obtain ⟨rfl, rfl⟩ : ({} : Machine) = m ∧ [] = bs := by simpa using h
      exact ⟨.initial, hinit⟩
  | append_singleton es e ih =>
      obtain ⟨m', bs', b, hrun, hadv, rfl⟩ := run_concat_eq_some h
      obtain ⟨inv, hP⟩ := ih hrun
      exact ⟨inv.advance hadv, hstep inv hP hadv⟩

/-- Every draft of every container satisfies `P`. -/
def AllDrafts (P : Draft → Prop) (m : Machine) : Prop :=
  ∀ s c, m.container? s = some c → ∀ d ∈ c.drafts, P d

lemma AllDrafts.setDrafts {P : Draft → Prop} {m : Machine} (h : m.AllDrafts P) {s : Slot}
    {ds : List Draft} (hds : ∀ d ∈ ds, P d) : (m.setDrafts s ds).AllDrafts P := by
  intro s' c' hc'
  rw [container?_setDrafts] at hc'
  split_ifs at hc' with hs
  · obtain ⟨c, -, rfl⟩ := Option.map_eq_some_iff.mp hc'
    exact hds
  · exact h s' c' hc'

/-- Scripts fill drafts with nothing but what a script can ask for. -/
lemma AllDrafts.advance_scriptable {passes : Passes} {m m' : Machine} {e : Event}
    {b : Option Block} (h : m.AllDrafts Draft.Scriptable) (hadv : Advance passes m e m' b) :
    m'.AllDrafts Draft.Scriptable := by
  cases hadv with
  | opened _ _ =>
      intro s c hc
      rw [container?_openNew] at hc
      split_ifs at hc with hs
      · cases hc
        simp
      · exact h s c hc
  | closedMacro _ _ _ => exact fun s c hc => h s c (by simpa using hc)
  | closedBlock _ _ _ _ => exact fun s c hc => h s c (by simpa using hc)
  | filled hcur hfill =>
      rename_i s c ds
      have hc := h s c (current?_eq_some_iff.mp hcur).2
      refine h.setDrafts fun d hd => ?_
      cases hfill with
      | select _ _ =>
          rcases List.mem_cons.mp hd with rfl | hd
          · exact Draft.scriptable_empty _
          · exact hc d hd
      | push hlast hpush =>
          rw [hlast, List.forall_mem_cons] at hc
          rcases List.mem_cons.mp hd with rfl | hd
          · exact Draft.scriptable_pushed? hc.1 hpush
          · exact hc.2 d hd
      | modify hlast hmodify =>
          rw [hlast, List.forall_mem_cons] at hc
          rcases List.mem_cons.mp hd with rfl | hd
          · exact Draft.scriptable_modified? hc.1 hmodify
          · exact hc.2 d hd
      | @insert name offset i inserted _ _ _ hstored =>
          rcases List.mem_append.mp hd with hd | hd
          · cases offset with
            | none => exact h _ _ hstored d hd
            | some off =>
                obtain ⟨d', hd', rfl⟩ := List.mem_map.mp hd
                exact Draft.scriptable_shift off (h _ _ hstored d' hd')
          · exact hc d hd

/-! ## Closed blocks -/

lemma filterMap_zipIdx_eq_map {f : Container × Nat → Option String} {l : List Container}
    (h : ∀ x ∈ l.zipIdx, f x = some x.1.name) :
    l.zipIdx.filterMap f = l.map Container.name := by
  calc l.zipIdx.filterMap f
      = l.zipIdx.filterMap (some ∘ fun x => x.1.name) := List.filterMap_congr h
    _ = (l.zipIdx.map Prod.fst).map Container.name := by
        rw [List.filterMap_eq_map, List.map_map, Function.comp_def]
    _ = l.map Container.name := by rw [List.zipIdx_map_fst]

/-- With no block open, all blocks are closed. -/
lemma closedBlocks_eq_map {m : Machine} (h : ∀ i, m.active ≠ some ⟨.block, i⟩) :
    m.closedBlocks = m.blocks.toList.map Container.name :=
  filterMap_zipIdx_eq_map fun x _ => if_neg (h x.2)

/-- With the newest block open, all others are closed. -/
lemma closedBlocks_eq_dropLast {m : Machine} {i : Nat} (h : m.active = some ⟨.block, i⟩)
    (hlast : i + 1 = m.blocks.size) :
    m.closedBlocks = m.blocks.toList.dropLast.map Container.name := by
  have hne : m.blocks.toList ≠ [] := by
    intro hnil
    simp [← Array.length_toList, hnil] at hlast
  have hsplit := List.dropLast_append_getLast hne
  have hlen : m.blocks.toList.dropLast.length = i := by
    rw [List.length_dropLast, Array.length_toList]
    omega
  rw [closedBlocks, ← hsplit, List.zipIdx_append, List.filterMap_append, List.dropLast_concat]
  rw [filterMap_zipIdx_eq_map]
  · simp [hlen, h]
  · rintro ⟨c, j⟩ hmem
    have hj : j < i := by
      have := (List.mem_zipIdx' hmem).1
      omega
    refine if_neg fun hact => ?_
    rw [h] at hact
    simp only [Option.some.injEq, Slot.mk.injEq, true_and] at hact
    omega

lemma map_name_modify (a : Array Container) (i : Nat) (ds : List Draft) :
    (a.modify i ({ · with drafts := ds })).toList.map Container.name
      = a.toList.map Container.name := by
  refine List.ext_getElem? fun j => ?_
  simp only [List.getElem?_map, Array.getElem?_toList, Array.getElem?_modify]
  split <;> simp [Function.comp_def]

lemma map_name_blocks_setDrafts (m : Machine) (s : Slot) (ds : List Draft) :
    (m.setDrafts s ds).blocks.toList.map Container.name
      = m.blocks.toList.map Container.name := by
  obtain ⟨kind, i⟩ := s
  cases kind with
  | block => exact map_name_modify m.blocks i ds
  | macroDef => rfl

lemma closedBlocks_setDrafts {m : Machine} (inv : m.Invariant) (s : Slot) (ds : List Draft) :
    (m.setDrafts s ds).closedBlocks = m.closedBlocks := by
  by_cases h : ∃ i, m.active = some ⟨.block, i⟩
  · obtain ⟨i, hi⟩ := h
    have hlast : i + 1 = m.blocks.size := inv.newest hi
    have hlast' : i + 1 = (m.setDrafts s ds).blocks.size := by
      rw [hlast]
      exact (size_arena_setDrafts m s ds .block).symm
    rw [closedBlocks_eq_dropLast hi hlast,
      closedBlocks_eq_dropLast (by simpa using hi) hlast', List.map_dropLast, List.map_dropLast,
      map_name_blocks_setDrafts]
  · have hne : ∀ i, m.active ≠ some ⟨.block, i⟩ := fun i hi => h ⟨i, hi⟩
    rw [closedBlocks_eq_map hne, closedBlocks_eq_map (by simpa using hne),
      map_name_blocks_setDrafts]

lemma closedBlocks_idle_of_block {m : Machine} (inv : m.Invariant) {i : Nat} {c : Container}
    (hcur : m.current? = some (⟨.block, i⟩, c)) :
    m.idle.closedBlocks = m.closedBlocks ++ [c.name] := by
  obtain ⟨hs, hc⟩ := current?_eq_some_iff.mp hcur
  have hlast : i + 1 = m.blocks.size := inv.newest hs
  have hget : m.blocks.toList.getLast? = some c := by
    rw [List.getLast?_eq_getElem?, Array.length_toList, Array.getElem?_toList, ← hlast]
    exact hc
  obtain ⟨others, hothers⟩ := List.getLast?_eq_some_iff.mp hget
  have hidle : m.idle.blocks.toList = others ++ [c] := hothers
  rw [closedBlocks_eq_map (by simp), closedBlocks_eq_dropLast hs hlast, hidle, hothers]
  simp

/-- **An accepted event adds to the closed blocks exactly the block it hands over.** -/
lemma closedBlocks_advance {m : Machine} (inv : m.Invariant) {passes : Passes} {e : Event}
    {m' : Machine} {b : Option Block} (h : Advance passes m e m' b) :
    m'.closedBlocks = m.closedBlocks ++ b.toList.map Block.name := by
  cases h with
  | @opened kind name hidle hfresh =>
      have hactive := inv.active_eq_none hidle
      rw [closedBlocks_eq_map (m := m) (by simp [hactive])]
      cases kind with
      | block =>
          rw [closedBlocks_eq_dropLast (active_openNew m .block name)
            (by simp [openNew, arena])]
          simp [openNew]
      | macroDef =>
          rw [closedBlocks_eq_map (by simp)]
          simp [openNew]
  | closedMacro hcur _ _ =>
      obtain ⟨hs, -⟩ := current?_eq_some_iff.mp hcur
      rw [closedBlocks_eq_map (m := m) (by simp [hs]), closedBlocks_eq_map (by simp)]
      simp [idle]
  | closedBlock hcur _ _ _ =>
      rw [closedBlocks_idle_of_block inv hcur]
      simp
  | filled _ _ =>
      rw [closedBlocks_setDrafts inv]
      simp

/-- **The blocks handed over are the closed ones, in order.** -/
theorem map_name_eq_closedBlocks {passes : Passes} {es : List Event} {m : Machine}
    {bs : List Block} (h : run passes {} es = some (m, bs)) :
    bs.map Block.name = m.closedBlocks := by
  refine (run_induction (P := fun _ m bs => bs.map Block.name = m.closedBlocks) rfl ?_ h).2
  intro es m bs e m' b inv hP hadv
  rw [closedBlocks_advance inv hadv, List.map_append, hP]

/-- No two containers of an arena have the same name. -/
lemma Invariant.nodup_names {m : Machine} (inv : m.Invariant) :
    (m.blocks.toList.map Container.name).Nodup := by
  rw [List.nodup_iff_injective_getElem]
  rintro ⟨i, hi⟩ ⟨j, hj⟩ hij
  simp only [List.length_map, Array.length_toList] at hi hj
  simp only [List.getElem_map, Array.getElem_toList] at hij
  have hslot : ∀ k (hk : k < m.blocks.size), m.slot? (m.blocks[k].name) = some ⟨.block, k⟩ :=
    fun k hk => inv.listed (s := ⟨.block, k⟩) (Array.getElem?_eq_getElem hk)
  have hi' := hslot i hi
  rw [hij, hslot j hj] at hi'
  simp only [Option.some.injEq, Slot.mk.injEq, true_and] at hi'
  exact Fin.ext hi'.symm

lemma Invariant.nodup_closedBlocks {m : Machine} (inv : m.Invariant) : m.closedBlocks.Nodup := by
  by_cases h : ∃ i, m.active = some ⟨.block, i⟩
  · obtain ⟨i, hi⟩ := h
    rw [closedBlocks_eq_dropLast hi (inv.newest hi), List.map_dropLast]
    exact inv.nodup_names.sublist (List.dropLast_sublist _)
  · rw [closedBlocks_eq_map fun i hi => h ⟨i, hi⟩]
    exact inv.nodup_names

/-! ## What is handed over -/

/-- **Every block handed over** is what the clean-up leaves of a list of writes that is not empty
and that a script can ask for, under a name that some event gave to a block. -/
theorem exists_writes_of_mem {passes : Passes} {es : List Event} {m : Machine} {bs : List Block}
    (h : run passes {} es = some (m, bs)) {b : Block} (hb : b ∈ bs) :
    Event.startBlock b.name ∈ es ∧ ∃ ws, ws ≠ [] ∧ (∀ w ∈ ws, w.Scriptable) ∧
      b = ({ name := b.name, writes := ws } : Block).optimized passes := by
  let P : List Event → Machine → List Block → Prop := fun es m bs =>
    m.AllDrafts Draft.Scriptable ∧
    (∀ i c, m.container? ⟨.block, i⟩ = some c → Event.startBlock c.name ∈ es) ∧
    ∀ b ∈ bs, Event.startBlock b.name ∈ es ∧ ∃ ws, ws ≠ [] ∧ (∀ w ∈ ws, w.Scriptable) ∧
      b = ({ name := b.name, writes := ws } : Block).optimized passes
  refine (run_induction (P := P) ?_ ?_ h).2.2.2 b hb
  · refine ⟨fun s c hc => ?_, fun i c hc => ?_, by simp⟩
    · cases hk : s.kind <;> simp [container?, arena, hk] at hc
    · simp [container?, arena] at hc
  · rintro es m bs e m' b inv ⟨hdrafts, hnames, hblocks⟩ hadv
    have hblocks' : ∀ b ∈ bs, Event.startBlock b.name ∈ es ++ [e] ∧ ∃ ws, ws ≠ [] ∧
        (∀ w ∈ ws, w.Scriptable) ∧
        b = ({ name := b.name, writes := ws } : Block).optimized passes :=
      fun b hb => ⟨List.mem_append_left _ (hblocks b hb).1, (hblocks b hb).2⟩
    refine ⟨hdrafts.advance_scriptable hadv, ?_, ?_⟩
    · intro i c hc
      cases hadv with
      | @opened kind name _ _ =>
          rw [container?_openNew] at hc
          split_ifs at hc with hs
          · cases hc
            cases kind with
            | block => exact List.mem_append_right _ (List.mem_singleton.mpr rfl)
            | macroDef => simp at hs
          · exact List.mem_append_left _ (hnames i c hc)
      | closedMacro _ _ _ => exact List.mem_append_left _ (hnames i c (by simpa using hc))
      | closedBlock _ _ _ _ => exact List.mem_append_left _ (hnames i c (by simpa using hc))
      | @filled _ s c' ds hcur hfill =>
          rw [container?_setDrafts] at hc
          split_ifs at hc with hs
          · obtain ⟨c₀, hc₀, rfl⟩ := Option.map_eq_some_iff.mp hc
            exact List.mem_append_left _ (hnames i c₀ (hs ▸ hc₀))
          · exact List.mem_append_left _ (hnames i c hc)
    · cases hadv with
      | @closedBlock i c ws hcur hne _ hws =>
          have hc := (current?_eq_some_iff.mp hcur).2
          have hcomp := Container.complete_eq_ok_iff.mp hws
          simp only [Option.toList_some, List.mem_append, List.mem_singleton]
          rintro b (hb | rfl)
          · simpa using hblocks' b hb
          · simp only [Block.optimized_name, reduceCtorEq, or_false]
            refine ⟨hnames i c hc, ws, fun hnil => hne (hcomp.eq_nil_iff.mp hnil), ?_, rfl⟩
            intro w hw
            obtain ⟨d, hd, hdw⟩ := hcomp.exists_draft hw
            exact Draft.scriptable_complete? (hdrafts _ c hc d hd) hdw
      | opened _ _ => simpa using hblocks'
      | closedMacro _ _ _ => simpa using hblocks'
      | filled _ _ => simpa using hblocks'

end Machine

end RegisterScript
