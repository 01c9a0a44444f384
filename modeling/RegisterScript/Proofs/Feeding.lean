import RegisterScript.Compile
import RegisterScript.Proofs.MachineStep

/-!
# Feeding a trace to a machine

A trace is fed item by item: the machine takes the events, the emitter takes the blocks as they are
closed, and both leave notes.  For what comes out it makes no difference that these things happen
in turns: a feeding goes through exactly if the machine accepts all events and the emitter then
accepts all blocks, one after the other (`run_of_feedItems`, `feedItems_of_run`).  One that does not
go through gets as far as both accept (`feedItems_halts`).

* `TraceItem.events`, what a trace delivers, without remarks and without blame.
* `Emitter.emitAll`, an emitter that has to accept every block of a list.
* `compile_eq_ok_iff`, what this means for the blocks of a script.
-/

namespace RegisterScript

/-- The event of an item. -/
def TraceItem.event? : TraceItem → Option Event
  | event _ e => some e
  | remark _ => none

/-- The events of a list of items. -/
def TraceItem.events (items : List TraceItem) : List Event := items.filterMap TraceItem.event?

/-- The events of a trace. -/
def Trace.events (t : Trace) : List Event := TraceItem.events t.items

namespace TraceItem

@[simp] lemma events_nil : events [] = [] := rfl

@[simp] lemma events_cons_event (blame : Blame) (e : Event) (items : List TraceItem) :
    events (.event blame e :: items) = e :: events items := rfl

@[simp] lemma events_cons_remark (r : Remark) (items : List TraceItem) :
    events (.remark r :: items) = events items := rfl

@[simp] lemma events_append (items items' : List TraceItem) :
    events (items ++ items') = events items ++ events items' := by
  simp [events]

@[simp] lemma events_map_event (blame : Blame) (es : List Event) :
    events (es.map (TraceItem.event blame)) = es := by
  induction es with
  | nil => rfl
  | cons e es ih => rw [List.map_cons, events_cons_event, ih]

lemma events_of_map {items : List TraceItem} {es : List Event}
    (h : items.map TraceItem.event? = es.map some) : events items = es := by
  have hmap : (items.map TraceItem.event?).filterMap id = (es.map some).filterMap id := by rw [h]
  simpa [List.filterMap_map, events] using hmap

end TraceItem

namespace Emitter

variable {τ : Type}

/-- Emits blocks one after the other; every one has to be accepted. -/
def emitAll (emitter : Emitter τ) : τ → List Block → Option τ
  | t, [] => some t
  | t, b :: bs =>
    match (emitter.emit t b).2.2 with
    | none => emitAll emitter (emitter.emit t b).1 bs
    | some _ => none

@[simp] lemma emitAll_nil (emitter : Emitter τ) (t : τ) : emitter.emitAll t [] = some t := rfl

lemma emitAll_cons_of_accepted {emitter : Emitter τ} {t : τ} {b : Block}
    (h : (emitter.emit t b).2.2 = none) (bs : List Block) :
    emitter.emitAll t (b :: bs) = emitter.emitAll (emitter.emit t b).1 bs := by
  simp [emitAll, h]

lemma emitAll_cons_of_refused {emitter : Emitter τ} {t : τ} {b : Block} {f : Fault}
    (h : (emitter.emit t b).2.2 = some f) (bs : List Block) :
    emitter.emitAll t (b :: bs) = none := by
  simp [emitAll, h]

lemma emitAll_cons_eq_some_iff {emitter : Emitter τ} {t t' : τ} {b : Block} {bs : List Block} :
    emitter.emitAll t (b :: bs) = some t' ↔
      (emitter.emit t b).2.2 = none ∧ emitter.emitAll (emitter.emit t b).1 bs = some t' := by
  cases h : (emitter.emit t b).2.2 with
  | none => simp [emitAll_cons_of_accepted h]
  | some f => simp [emitAll_cons_of_refused h]

lemma emitAll_append (emitter : Emitter τ) (t : τ) (bs bs' : List Block) :
    emitter.emitAll t (bs ++ bs') = (emitter.emitAll t bs).bind (emitter.emitAll · bs') := by
  induction bs generalizing t with
  | nil => rfl
  | cons b bs ih =>
      cases h : (emitter.emit t b).2.2 with
      | none =>
          rw [List.cons_append, emitAll_cons_of_accepted h, emitAll_cons_of_accepted h, ih]
      | some f =>
          rw [List.cons_append, emitAll_cons_of_refused h, emitAll_cons_of_refused h]
          rfl

/-- An emitter that accepts everything is a fold. -/
lemma emitAll_eq_foldl {emitter : Emitter τ} (h : ∀ t b, (emitter.emit t b).2.2 = none) (t : τ)
    (bs : List Block) :
    emitter.emitAll t bs = some (bs.foldl (fun t b => (emitter.emit t b).1) t) := by
  induction bs generalizing t with
  | nil => rfl
  | cons b bs ih => rw [emitAll_cons_of_accepted (h t b), ih, List.foldl_cons]

end Emitter

/-! ## Items -/

section Items

variable {σ : Type} {sink : Sink σ}

lemma feedItems_event {x x' : σ} {e : Event} (h : sink.accept x e = (x', none)) (blame : Blame)
    (items : List TraceItem) :
    feedItems sink x (.event blame e :: items) = feedItems sink x' items := by
  rw [feedItems, h]

lemma feedItems_event_refused {x x' : σ} {e : Event} {f : Fault}
    (h : sink.accept x e = (x', some f)) (blame : Blame) (items : List TraceItem) :
    feedItems sink x (.event blame e :: items) = (x', some (blame.wrap f)) := by
  rw [feedItems, h]

/-- Items that have all been taken can be left out. -/
lemma feedItems_append {x x' : σ} {items : List TraceItem}
    (h : feedItems sink x items = (x', none)) (rest : List TraceItem) :
    feedItems sink x (items ++ rest) = feedItems sink x' rest := by
  induction items generalizing x with
  | nil =>
      obtain rfl : x = x' := congrArg Prod.fst h
      rfl
  | cons item items ih =>
      cases item with
      | remark r => exact ih (x := sink.report x r) h
      | event blame e =>
          cases hacc : sink.accept x e with
          | mk x₁ fault =>
              cases fault with
              | some f => simp [feedItems, hacc] at h
              | none =>
                  rw [feedItems_event hacc] at h
                  rw [List.cons_append, feedItems_event hacc]
                  exact ih h

/-- Items behind one that has been refused are never seen. -/
lemma feedItems_append_of_refused {x x' : σ} {items : List TraceItem} {f : Fault}
    (h : feedItems sink x items = (x', some f)) (rest : List TraceItem) :
    feedItems sink x (items ++ rest) = (x', some f) := by
  induction items generalizing x with
  | nil => cases h
  | cons item items ih =>
      cases item with
      | remark r => exact ih (x := sink.report x r) h
      | event blame e =>
          cases hacc : sink.accept x e with
          | mk x₁ fault =>
              cases fault with
              | some f =>
                  rw [feedItems_event_refused hacc] at h
                  rw [List.cons_append, feedItems_event_refused hacc, h]
              | none =>
                  rw [feedItems_event hacc] at h
                  rw [List.cons_append, feedItems_event hacc]
                  exact ih h

/-- A trace goes through if its items do and it has no fault of its own. -/
lemma Trace.feed_eq_none {t : Trace} {x x' : σ} :
    t.feed sink x = (x', none) ↔ feedItems sink x t.items = (x', none) ∧ t.fault = none := by
  rw [Trace.feed]
  rcases feedItems sink x t.items with ⟨y, _ | f⟩ <;> simp

end Items

/-! ## Sinks that accept everything -/

section Accepting

variable {σ : Type} {sink : Sink σ}

lemma feedItems_of_accepting (hsink : ∀ x e, (sink.accept x e).2 = none) (x : σ)
    (items : List TraceItem) : (feedItems sink x items).2 = none := by
  induction items generalizing x with
  | nil => rfl
  | cons item items ih =>
      cases item with
      | remark r => exact ih _
      | event blame e =>
          rw [feedItems_event (Prod.ext rfl (hsink x e))]
          exact ih _

/-- Items without a remark are taken as their events, one after the other. -/
lemma feedItems_events (hsink : ∀ x e, (sink.accept x e).2 = none) (x : σ)
    {items : List TraceItem} {es : List Event} (h : items.map TraceItem.event? = es.map some) :
    (feedItems sink x items).1 = es.foldl (fun x e => (sink.accept x e).1) x := by
  induction es generalizing x items with
  | nil =>
      rw [List.map_nil, List.map_eq_nil_iff] at h
      rw [h]
      rfl
  | cons e es ih =>
      obtain ⟨item, items, rfl, hitem, hitems⟩ := List.map_eq_cons_iff.mp h
      cases item with
      | remark r => cases hitem
      | event blame e' =>
          cases hitem
          rw [feedItems_event (Prod.ext rfl (hsink x e))]
          exact ih _ hitems

end Accepting

/-! ## One event -/

namespace Assembly

variable {τ : Type} {passes : Passes} (emitter : Emitter τ) {a : Assembly τ} {e : Event}

/-- The emitter cannot reach the machine. -/
lemma machine_accept (passes : Passes) (emitter : Emitter τ) (a : Assembly τ) (e : Event) :
    (a.accept passes emitter e).1.machine = (a.machine.step passes e).machine := by
  rw [accept]
  split <;> rfl

/-- The machine refuses the event, and the emitter does not hear of it. -/
lemma accept_of_refused (h : a.machine.advance passes e = none) :
    ∃ m notes f, a.accept passes emitter e
      = ({ a with machine := m, notes := notes }, some f) := by
  cases herr : (a.machine.step passes e).error with
  | none => simp [Machine.advance, herr] at h
  | some err => exact ⟨_, _, _, by simp only [accept, herr]; rfl⟩

/-- A refusal that leaves the machine as it was leaves everything as it was. -/
lemma accept_of_refuse {err : MachineError} (h : a.machine.step passes e = a.machine.refuse err) :
    a.accept passes emitter e = (a, some (.machine err)) := by
  simp only [accept, h]
  rfl

/-- The machine accepts the event and hands nothing over. -/
lemma accept_of_silent {m : Machine} (h : a.machine.advance passes e = some (m, none)) :
    ∃ notes, a.accept passes emitter e = ({ a with machine := m, notes := notes }, none) := by
  simp only [Machine.advance, Option.ite_none_right_eq_some, Option.isNone_iff_eq_none,
    Option.some.injEq, Prod.mk.injEq] at h
  obtain ⟨herr, rfl, hhanded⟩ := h
  exact ⟨_, by simp only [accept, herr, hhanded]; rfl⟩

/-- The machine accepts the event and hands a block over. -/
lemma accept_of_handed {m : Machine} {b : Block}
    (h : a.machine.advance passes e = some (m, some b)) :
    ∃ notes, a.accept passes emitter e =
      ({ machine := m, target := (emitter.emit a.target b).1, notes := notes },
        (emitter.emit a.target b).2.2.map (.emitting b.name)) := by
  simp only [Machine.advance, Option.ite_none_right_eq_some, Option.isNone_iff_eq_none,
    Option.some.injEq, Prod.mk.injEq] at h
  obtain ⟨herr, rfl, hhanded⟩ := h
  exact ⟨_, by simp only [accept, herr, hhanded, handOver, remark]; rfl⟩

end Assembly

/-! ## All events -/

section Feeding

variable {τ : Type} {passes : Passes} {emitter : Emitter τ}

lemma feedItems_of_accepted {a a' : Assembly τ} {blame : Blame} {e : Event}
    (h : a.accept passes emitter e = (a', none)) (items : List TraceItem) :
    feedItems (Assembly.sink passes emitter) a (.event blame e :: items)
      = feedItems (Assembly.sink passes emitter) a' items :=
  feedItems_event h blame items

lemma feedItems_of_stopped {a a' : Assembly τ} {blame : Blame} {e : Event} {f : Fault}
    (h : a.accept passes emitter e = (a', some f)) (items : List TraceItem) :
    feedItems (Assembly.sink passes emitter) a (.event blame e :: items)
      = (a', some (blame.wrap f)) :=
  feedItems_event_refused h blame items

/-- If the machine accepts all events and the emitter all blocks, the feeding goes through. -/
theorem feedItems_of_run {a : Assembly τ} {items : List TraceItem} {m : Machine}
    {bs : List Block} {t : τ}
    (hrun : a.machine.run passes (TraceItem.events items) = some (m, bs))
    (hemit : emitter.emitAll a.target bs = some t) :
    ∃ notes, feedItems (Assembly.sink passes emitter) a items
      = ({ machine := m, target := t, notes := notes }, none) := by
  induction items generalizing a bs with
  | nil =>
      obtain ⟨rfl, rfl⟩ : a.machine = m ∧ [] = bs := by simpa using hrun
      obtain rfl : a.target = t := by simpa using hemit
      exact ⟨a.notes, rfl⟩
  | cons item items ih =>
      cases item with
      | remark r => exact ih (a := a.remark [r]) hrun hemit
      | event blame e =>
          rw [TraceItem.events_cons_event] at hrun
          obtain ⟨m₁, b, bs', hadv, hrest, rfl⟩ := Machine.run_cons_eq_some hrun
          cases b with
          | none =>
              obtain ⟨notes, hacc⟩ := Assembly.accept_of_silent emitter hadv
              rw [feedItems_of_accepted hacc]
              exact ih (a := { a with machine := m₁, notes := notes }) hrest hemit
          | some b =>
              obtain ⟨notes, hacc⟩ := Assembly.accept_of_handed emitter hadv
              rw [Option.toList_some, List.singleton_append] at hemit
              obtain ⟨hb, hemit⟩ := Emitter.emitAll_cons_eq_some_iff.mp hemit
              rw [hb, Option.map_none] at hacc
              rw [feedItems_of_accepted hacc]
              exact ih
                (a := { machine := m₁, target := (emitter.emit a.target b).1, notes := notes })
                hrest hemit

/-- How a feeding ends when machine and emitter have got to `m` and `t`: there is no further event,
the machine refuses it, or the emitter refuses the block that it closes. -/
inductive Halts (passes : Passes) (emitter : Emitter τ) (m : Machine) (t : τ) :
    List Event → Assembly τ × Option Fault → Prop where
  | finished (notes : List Note) :
      Halts passes emitter m t [] ({ machine := m, target := t, notes := notes }, none)
  | refused {e : Event} {rest : List Event} {a : Assembly τ} {f : Fault}
      (hrefused : m.advance passes e = none) (htarget : a.target = t) :
      Halts passes emitter m t (e :: rest) (a, some f)
  | rejected {e : Event} {rest : List Event} {m' : Machine} {b : Block} {a : Assembly τ} {f : Fault}
      (hclosed : m.advance passes e = some (m', some b)) (hrejected : (emitter.emit t b).2.2 ≠ none)
      (htarget : a.target = (emitter.emit t b).1) : Halts passes emitter m t (e :: rest) (a, some f)

/-- **How far a feeding gets.**  The events fall into those that were taken, by the machine and with
their blocks by the emitter, and the rest, where the feeding halts. -/
theorem feedItems_halts (passes : Passes) (emitter : Emitter τ) (a : Assembly τ)
    (items : List TraceItem) :
    ∃ taken rest m bs t, TraceItem.events items = taken ++ rest ∧
      a.machine.run passes taken = some (m, bs) ∧ emitter.emitAll a.target bs = some t ∧
      Halts passes emitter m t rest (feedItems (Assembly.sink passes emitter) a items) := by
  -- An item is either the one at which the feeding halts, or it is put in front of those taken.
  induction items generalizing a with
  | nil => exact ⟨[], [], a.machine, [], a.target, rfl, rfl, rfl, .finished a.notes⟩
  | cons item items ih =>
      cases item with
      | remark r => exact ih (a.remark [r])
      | event blame e =>
          cases hadv : a.machine.advance passes e with
          | none =>
              obtain ⟨m₁, notes, f, hacc⟩ := Assembly.accept_of_refused emitter hadv
              refine ⟨[], _, a.machine, [], a.target, rfl, rfl, rfl, ?_⟩
              rw [feedItems_of_stopped hacc]
              exact .refused hadv rfl
          | some result =>
              obtain ⟨m₁, b⟩ := result
              have hstep := Machine.run_cons_of_advance (Machine.advance_eq_some_iff.mp hadv)
              cases b with
              | none =>
                  obtain ⟨notes, hacc⟩ := Assembly.accept_of_silent emitter hadv
                  obtain ⟨taken, rest, m, bs, t, hsplit, hrun, hemit, hhalts⟩ :=
                    ih { a with machine := m₁, notes := notes }
                  refine ⟨e :: taken, rest, m, bs, t, ?_, ?_, hemit, ?_⟩
                  · rw [TraceItem.events_cons_event, hsplit, List.cons_append]
                  · rw [hstep, hrun]
                    rfl
                  · rwa [feedItems_of_accepted hacc]
              | some b =>
                  obtain ⟨notes, hacc⟩ := Assembly.accept_of_handed emitter hadv
                  cases hb : (emitter.emit a.target b).2.2 with
                  | some f =>
                      rw [hb, Option.map_some] at hacc
                      refine ⟨[], _, a.machine, [], a.target, rfl, rfl, rfl, ?_⟩
                      rw [feedItems_of_stopped hacc]
                      exact .rejected hadv (by rw [hb]; exact Option.some_ne_none f) rfl
                  | none =>
                      rw [hb, Option.map_none] at hacc
                      obtain ⟨taken, rest, m, bs, t, hsplit, hrun, hemit, hhalts⟩ :=
                        ih { machine := m₁, target := (emitter.emit a.target b).1, notes := notes }
                      refine ⟨e :: taken, rest, m, b :: bs, t, ?_, ?_, ?_, ?_⟩
                      · rw [TraceItem.events_cons_event, hsplit, List.cons_append]
                      · rw [hstep, hrun]
                        rfl
                      · rw [Emitter.emitAll_cons_of_accepted hb, hemit]
                      · rwa [feedItems_of_accepted hacc]

/-- If the feeding goes through, the machine has accepted all events and the emitter all blocks. -/
theorem run_of_feedItems {a a' : Assembly τ} {items : List TraceItem}
    (h : feedItems (Assembly.sink passes emitter) a items = (a', none)) :
    ∃ bs, a.machine.run passes (TraceItem.events items) = some (a'.machine, bs) ∧
      emitter.emitAll a.target bs = some a'.target := by
  obtain ⟨taken, rest, m, bs, t, hsplit, hrun, hemit, hhalts⟩ :=
    feedItems_halts passes emitter a items
  rw [h] at hhalts
  cases hhalts
  rw [hsplit, List.append_nil]
  exact ⟨bs, hrun, hemit⟩

/-- **Feeding a whole trace to a fresh machine**: the trace must not end in a fault of its own. -/
theorem feed_eq_none_iff (passes : Passes) (emitter : Emitter τ) (t : Trace) (x y : τ)
    (m : Machine) :
    (∃ notes, t.feed (Assembly.sink passes emitter) { target := x }
      = ({ machine := m, target := y, notes := notes }, none)) ↔
    t.fault = none ∧
      ∃ bs, Machine.run passes {} t.events = some (m, bs) ∧ emitter.emitAll x bs = some y := by
  constructor
  · rintro ⟨notes, h⟩
    obtain ⟨hfeed, hfault⟩ := Trace.feed_eq_none.mp h
    exact ⟨hfault, run_of_feedItems hfeed⟩
  · rintro ⟨hfault, bs, hrun, hemit⟩
    obtain ⟨notes, hfeed⟩ := feedItems_of_run (a := { target := x }) hrun hemit
    exact ⟨notes, Trace.feed_eq_none.mpr ⟨hfeed, hfault⟩⟩

end Feeding

/-! ## The blocks of a script -/

lemma emitAll_collect (read bs : List Block) :
    Emitter.collect.emitAll read bs = some (bs.reverse ++ read) := by
  rw [Emitter.emitAll_eq_foldl (fun _ _ => rfl)]
  congr 1
  induction bs generalizing read with
  | nil => rfl
  | cons b bs ih =>
      rw [List.foldl_cons, ih]
      simp [Emitter.collect]

/-- A run that has been called off accepts no block. -/
lemma Emitter.emitAll_cancelable_eq_some_iff {τ : Type} {emitter : Emitter τ} {canceled : Bool}
    {t t' : τ} {bs : List Block} :
    (emitter.cancelable canceled).emitAll t bs = some t' ↔
      emitter.emitAll t bs = some t' ∧ (canceled = true → bs = []) := by
  cases canceled with
  | false =>
      have hsame : emitter.cancelable false = emitter := rfl
      simp [hsame]
  | true =>
      cases bs with
      | nil => simp
      | cons b bs =>
          have hrefused : ((emitter.cancelable true).emit t b).2.2 = some .canceled := rfl
          simp [emitAll_cons_of_refused hrefused]

/-- **When a script compiles, and to what.**  Its text has to be readable to the end, the machine
has to accept every event, and the blocks are those handed over; a run that has been called off
gets through only if there are none. -/
theorem compile_eq_ok_iff {passes : Passes} {canceled : Bool} {s : Source} {bs : List Block} :
    (compile passes canceled s).result = .ok bs ↔
      s.trace.fault = none ∧ (∃ m, Machine.run passes {} s.trace.events = some (m, bs)) ∧
        (canceled = true → bs = []) := by
  have hcollect : ∀ bs' : List Block,
      (Emitter.collect.cancelable canceled).emitAll [] bs' = some bs.reverse ↔
        bs' = bs ∧ (canceled = true → bs = []) := by
    intro bs'
    rw [Emitter.emitAll_cancelable_eq_some_iff, emitAll_collect]
    simp only [List.append_nil, Option.some.injEq, List.reverse_inj]
    exact ⟨fun ⟨heq, hnil⟩ => ⟨heq, heq ▸ hnil⟩, fun ⟨heq, hnil⟩ => ⟨heq, heq ▸ hnil⟩⟩
  have hfeed := feed_eq_none_iff passes (Emitter.collect.cancelable canceled) s.trace [] bs.reverse
  constructor
  · intro h
    simp only [compile] at h
    cases hs : s.trace.feed (Assembly.sink passes (Emitter.collect.cancelable canceled))
        { target := [] } with
    | mk a fault =>
        cases fault with
        | some f => simp [hs] at h
        | none =>
            obtain rfl : a.target.reverse = bs := by simpa [hs] using h
            obtain ⟨hfault, bs', hrun, hemit⟩ :=
              (hfeed a.machine).mp ⟨a.notes, by rw [hs, List.reverse_reverse]⟩
            obtain ⟨rfl, hcanceled⟩ := (hcollect bs').mp hemit
            exact ⟨hfault, ⟨a.machine, hrun⟩, hcanceled⟩
  · rintro ⟨hfault, ⟨m, hrun⟩, hcanceled⟩
    obtain ⟨notes, hs⟩ := (hfeed m).mpr ⟨hfault, bs, hrun, (hcollect bs).mpr ⟨rfl, hcanceled⟩⟩
    simp only [compile, hs, List.reverse_reverse]

end RegisterScript
