import Mathlib.Logic.Relation
import RegisterScript.Proofs.Feeding

/-!
# Scripts compiled at the same time

Several scripts are compiled by as many tasks, which take turns in any way they like.  They share
one thing: the first failure is kept, and from then on a task that closes a block may find that the
run has been called off.  `compileAll` knows nothing of turns.  It compiles every script on its own
and is told in which order they finish.

**Turns.**  `TaskGroup.Step`, one item of one trace at a time; `TaskGroup.Runs` for any number of
them.  `TaskGroup.join` is what becomes of the results that the tasks have left in their places.

**No task is disturbed before the first failure** (`TaskGroup.Invariant`), and the first failure is
kept.  So, whatever the turns, the answer is that of `compileAll` for the order in which the tasks
have finished (`TaskGroup.join_eq_compileAll`), and each order is that of some run
(`TaskGroup.exists_runs`).
-/

namespace RegisterScript

/-! ## Results -/

/-- The blocks that have been kept, unless something has gone wrong. -/
def blocksOf (fed : Assembly (List Block) × Option Fault) : Except Fault (List Block) :=
  match fed.2 with
  | some f => .error f
  | none => .ok fed.1.target.reverse

/-- The trace of an input.  One that could not be opened has nothing but that fault. -/
def Input.trace (i : Input) : Trace :=
  match i.opened with
  | .error e => { items := [], fault := some (.device e) }
  | .ok s => s.trace

/-- Where the events of a script go that is compiled along with others. -/
def keepingSink (passes : Passes) (calledOff : Bool) : Sink (Assembly (List Block)) :=
  Assembly.sink passes (Emitter.collect.cancelable calledOff)

lemma Input.result_compile (passes : Passes) (calledOff : Bool) (i : Input) :
    (i.compile passes calledOff).result
      = blocksOf (i.trace.feed (keepingSink passes calledOff) { target := [] }) := by
  cases hopened : i.opened with
  | error e => simp [Input.compile, Input.trace, hopened, Trace.feed, feedItems, blocksOf]
  | ok s =>
      rw [Input.compile, Input.trace, hopened]
      rfl

/-- The results of all inputs, each compiled on its own. -/
def resultsOf (passes : Passes) (inputs : List Input) : List (Except Fault (List Block)) :=
  inputs.map fun i => (i.compile passes false).result

/-- The first fault among results, in the order in which they are known. -/
def firstFault (results : List (Except Fault (List Block))) (finishing : List Nat) :
    Option Fault :=
  finishing.findSome? fun i => results[i]?.bind faultOf

/-- Writes the blocks of all files together, unless one of them is defined in two files. -/
def writeFiles (config : Config) (names : List String) (files : List (List Block)) (out : Output) :
    Except Fault (List String) × Output :=
  match findDuplicate [] ((names.zip files).flatMap fun f => f.2.map fun b => (f.1, b.name)) with
  | some f => (.error f, out)
  | none =>
    let (written, out) := emitBlocks config files.flatten out
    (written.result, out)

/-- **What `compileAll` does**: it looks for a fault, and writes if there is none. -/
lemma compileAll_eq (config : Config) (inputs : List Input) (finishing : List Nat) (out : Output) :
    ((compileAll config false inputs finishing out).1.result,
        (compileAll config false inputs finishing out).2) =
      match firstFault (resultsOf config.passes inputs) finishing
        <|> (resultsOf config.passes inputs).findSome? faultOf with
      | some f => (.error f, out)
      | none => writeFiles config (inputs.map Input.name)
          ((resultsOf config.passes inputs).map fun r => r.toOption.getD []) out := by
  have hfailed : ((finishing.findSome? fun i =>
        ((inputs.map fun i => (i.name, i.compile config.passes false))[i]?).bind fun o =>
          faultOf o.2.result)
      <|> (inputs.map fun i => (i.name, i.compile config.passes false)).findSome? fun o =>
        faultOf o.2.result)
      = (firstFault (resultsOf config.passes inputs) finishing
        <|> (resultsOf config.passes inputs).findSome? faultOf) := by
    simp [firstFault, resultsOf, List.findSome?_map, Function.comp_def, Option.bind_map]
  have hfiles : (inputs.map Input.name).zip
        ((resultsOf config.passes inputs).map fun r => r.toOption.getD [])
      = inputs.map fun i => (i.name, (i.compile config.passes false).result.toOption.getD []) := by
    simp [resultsOf, List.zip_map', Function.comp_def]
  simp only [compileAll, hfailed]
  cases (firstFault (resultsOf config.passes inputs) finishing
      <|> (resultsOf config.passes inputs).findSome? faultOf) with
  | some f => rfl
  | none =>
      have hall : ((resultsOf config.passes inputs).map fun r => r.toOption.getD []).flatten
          = inputs.flatMap fun i => (i.compile config.passes false).result.toOption.getD [] := by
        rw [resultsOf, List.map_map]
        rfl
      simp only [writeFiles, hfiles, hall, List.map_map, List.flatMap_map, Function.comp_def]
      cases findDuplicate [] (inputs.flatMap fun i =>
          ((i.compile config.passes false).result.toOption.getD []).map fun b =>
            (i.name, b.name)) with
      | some f => rfl
      | none => rfl

/-! ## Turns -/

/-- One script that is compiled along with others. -/
inductive Task where
  /-- What has been built, and what is still to be read. -/
  | running (a : Assembly (List Block)) (rest : Trace)
  | finished (result : Except Fault (List Block))

/-- The result of a task that is left alone from now on. -/
def Task.result (passes : Passes) : Task → Except Fault (List Block)
  | running a rest => blocksOf (rest.feed (keepingSink passes false) a)
  | finished result => result

/-- What a task has left in its place: nothing, unless it has finished well. -/
def Task.stored : Task → List Block
  | finished (.ok bs) => bs
  | _ => []

/-- Tasks, each in its place, and what they share. -/
structure TaskGroup where
  tasks : List Task
  /-- The first failure. -/
  failure : Option Fault := none
  /-- The places of the tasks that have finished, in order. -/
  finishing : List Nat := []

namespace TaskGroup

/-- All tasks before their first turn. -/
def start (inputs : List Input) : TaskGroup where
  tasks := inputs.map fun i => .running { target := [] } i.trace

/-- The task at a place finishes.  Only the first failure counts. -/
def finish (g : TaskGroup) (i : Nat) (result : Except Fault (List Block)) : TaskGroup where
  tasks := g.tasks.set i (.finished result)
  failure := g.failure <|> faultOf result
  finishing := g.finishing ++ [i]

/-- One turn of one task.  Only behind a failure it may find the run called off. -/
inductive Step (passes : Passes) : TaskGroup → TaskGroup → Prop
  | taken {g : TaskGroup} {i : Nat} {a a' : Assembly (List Block)} {item : TraceItem}
      {items : List TraceItem} {fault : Option Fault} {calledOff : Bool}
      (htask : g.tasks[i]? = some (.running a ⟨item :: items, fault⟩))
      (hcall : calledOff = true → g.failure ≠ none)
      (h : feedItems (keepingSink passes calledOff) a [item] = (a', none)) :
      Step passes g { g with tasks := g.tasks.set i (.running a' ⟨items, fault⟩) }
  | refused {g : TaskGroup} {i : Nat} {a a' : Assembly (List Block)} {item : TraceItem}
      {items : List TraceItem} {fault : Option Fault} {calledOff : Bool} {f : Fault}
      (htask : g.tasks[i]? = some (.running a ⟨item :: items, fault⟩))
      (hcall : calledOff = true → g.failure ≠ none)
      (h : feedItems (keepingSink passes calledOff) a [item] = (a', some f)) :
      Step passes g (g.finish i (.error f))
  | ended {g : TaskGroup} {i : Nat} {a : Assembly (List Block)} {fault : Option Fault}
      (htask : g.tasks[i]? = some (.running a ⟨[], fault⟩)) :
      Step passes g (g.finish i (blocksOf (a, fault)))

/-- Any number of turns. -/
def Runs (passes : Passes) (inputs : List Input) (g : TaskGroup) : Prop :=
  Relation.ReflTransGen (Step passes) (start inputs) g

/-- All tasks have finished. -/
def Joined (g : TaskGroup) : Prop := ∀ task ∈ g.tasks, ∃ result, task = .finished result

/-- What becomes of the results when all tasks have finished. -/
def join (config : Config) (names : List String) (g : TaskGroup) (out : Output) :
    Except Fault (List String) × Output :=
  match g.failure with
  | some f => (.error f, out)
  | none => writeFiles config names (g.tasks.map Task.stored) out

/-! ## The first failure -/

/-- What the turns keep.  The failure is the first, in the order of finishing, that an input has on
its own; and before it, no task is disturbed and none has failed. -/
structure Invariant (passes : Passes) (inputs : List Input) (g : TaskGroup) : Prop where
  first : g.failure = firstFault (resultsOf passes inputs) g.finishing
  undisturbed : g.failure = none → g.tasks.map (Task.result passes) = resultsOf passes inputs
  unfailed : g.failure = none → ∀ result, .finished result ∈ g.tasks → faultOf result = none

variable {passes : Passes} {inputs : List Input} {g g' : TaskGroup}

lemma map_result_set {i : Nat} {task task' : Task} (h : g.tasks[i]? = some task)
    (hresult : task'.result passes = task.result passes) :
    (g.tasks.set i task').map (Task.result passes) = g.tasks.map (Task.result passes) := by
  rw [List.map_set, hresult]
  refine List.ext_getElem? fun j => ?_
  rw [List.getElem?_set]
  split_ifs with hij hlength
  · rw [← hij, List.getElem?_map, h]
    rfl
  · rw [← hij, List.getElem?_eq_none (by simpa using hlength)]
  · rfl

lemma Invariant.start (passes : Passes) (inputs : List Input) :
    Invariant passes inputs (start inputs) where
  first := rfl
  undisturbed _ := by
    rw [TaskGroup.start, List.map_map, resultsOf]
    exact List.map_congr_left fun i _ => (i.result_compile passes false).symm
  unfailed _ result hmem := by simp [TaskGroup.start] at hmem

/-- A task that finishes undisturbed finishes with the result that it has on its own. -/
lemma Invariant.finish (inv : Invariant passes inputs g) {i : Nat} {task : Task}
    (htask : g.tasks[i]? = some task) {result : Except Fault (List Block)}
    (hresult : g.failure = none → result = task.result passes) :
    Invariant passes inputs (g.finish i result) := by
  cases hfailure : g.failure with
  | some f =>
      -- The failure that is there stays the first, whatever this task comes to.
      have hfinish : (g.finish i result).failure = some f := by simp [TaskGroup.finish, hfailure]
      refine ⟨?_, by simp [hfinish], by simp [hfinish]⟩
      have hfirst := inv.first
      rw [hfailure] at hfirst
      rw [hfinish, firstFault, TaskGroup.finish, List.findSome?_append, ← firstFault, ← hfirst]
      rfl
  | none =>
      -- Nobody has been disturbed yet, so this is the result that the input has on its own.
      have hown : (resultsOf passes inputs)[i]? = some result := by
        rw [← inv.undisturbed hfailure, List.getElem?_map, htask, hresult hfailure]
        rfl
      have hfinish : (g.finish i result).failure = faultOf result := by
        simp [TaskGroup.finish, hfailure]
      refine ⟨?_, fun _ => ?_, fun hnone other hmem => ?_⟩
      · have hfirst := inv.first
        rw [hfailure] at hfirst
        rw [hfinish, firstFault, TaskGroup.finish, List.findSome?_append, ← firstFault, ← hfirst]
        simp [hown]
      · rw [← inv.undisturbed hfailure]
        exact map_result_set htask (hresult hfailure)
      · rcases List.mem_or_eq_of_mem_set hmem with hmem | heq
        · exact inv.unfailed hfailure other hmem
        · rw [Task.finished.inj heq, ← hfinish, hnone]

/-- **One turn.** -/
lemma Invariant.step (inv : Invariant passes inputs g) (h : Step passes g g') :
    Invariant passes inputs g' := by
  cases h with
  | @taken i a a' item items fault calledOff htask hcall h =>
      refine ⟨inv.first, fun hnone => ?_, fun hnone result hmem => ?_⟩
      · obtain rfl : calledOff = false := Bool.eq_false_iff.mpr fun hcalled => hcall hcalled hnone
        have happend := feedItems_append h items
        rw [List.singleton_append] at happend
        rw [← inv.undisturbed hnone]
        refine map_result_set htask ?_
        rw [Task.result, Task.result, Trace.feed, Trace.feed, happend]
      · rcases List.mem_or_eq_of_mem_set hmem with hmem | heq
        · exact inv.unfailed hnone result hmem
        · cases heq
  | @refused i a a' item items fault calledOff f htask hcall h =>
      refine inv.finish htask fun hnone => ?_
      obtain rfl : calledOff = false := Bool.eq_false_iff.mpr fun hcalled => hcall hcalled hnone
      have happend := feedItems_append_of_refused h items
      rw [List.singleton_append] at happend
      rw [Task.result, Trace.feed, happend]
      rfl
  | ended htask => exact inv.finish htask fun _ => rfl

/-- **Any number of turns.** -/
lemma Runs.invariant (h : Runs passes inputs g) : Invariant passes inputs g := by
  induction h with
  | refl => exact .start passes inputs
  | tail _ hstep ih => exact ih.step hstep

/-- **The turns do not matter.**  When all tasks have finished, the answer is that of `compileAll`
for the order in which they have finished. -/
theorem join_eq_compileAll {config : Config} (h : Runs config.passes inputs g) (hjoined : g.Joined)
    (out : Output) :
    g.join config (inputs.map Input.name) out =
      ((compileAll config false inputs g.finishing out).1.result,
        (compileAll config false inputs g.finishing out).2) := by
  have inv := h.invariant
  rw [compileAll_eq, ← inv.first, join]
  cases hfailure : g.failure with
  | some f => rfl
  | none =>
      have hundisturbed := inv.undisturbed hfailure
      have hnone : (resultsOf config.passes inputs).findSome? faultOf = none := by
        rw [List.findSome?_eq_none_iff, ← hundisturbed]
        intro result hresult
        obtain ⟨task, htask, rfl⟩ := List.mem_map.mp hresult
        obtain ⟨result, rfl⟩ := hjoined task htask
        exact inv.unfailed hfailure result htask
      have hstored : g.tasks.map Task.stored
          = (resultsOf config.passes inputs).map fun r => r.toOption.getD [] := by
        rw [← hundisturbed, List.map_map]
        refine List.map_congr_left fun task htask => ?_
        obtain ⟨result, rfl⟩ := hjoined task htask
        cases result <;> rfl
      rw [hnone, hstored]
      rfl

/-! ## Orders -/

/-- A task that has the turns to itself finishes. -/
lemma exists_finish (passes : Passes) {i : Nat} {a : Assembly (List Block)} {rest : Trace}
    (htask : g.tasks[i]? = some (.running a rest)) :
    ∃ result, Relation.ReflTransGen (Step passes) g (g.finish i result) := by
  obtain ⟨items, fault⟩ := rest
  induction items generalizing a g with
  | nil => exact ⟨_, .single (.ended htask)⟩
  | cons item items ih =>
      cases h : feedItems (keepingSink passes false) a [item] with
      | mk a' refusal =>
          cases refusal with
          | some f => exact ⟨_, .single (.refused htask (by simp) h)⟩
          | none =>
              have hstep := Step.taken htask (by simp) h
              have hlength : i < g.tasks.length := (List.getElem?_eq_some_iff.mp htask).1
              have htask' : (g.tasks.set i (.running a' ⟨items, fault⟩))[i]?
                  = some (.running a' ⟨items, fault⟩) := by
                rw [List.getElem?_set_self hlength]
              obtain ⟨result, hruns⟩ := ih
                (g := { g with tasks := g.tasks.set i (.running a' ⟨items, fault⟩) }) htask'
              refine ⟨result, .head hstep ?_⟩
              simpa only [finish, List.set_set] using hruns

/-- The tasks at these places have finished, and the others have not. -/
def HasFinished (g : TaskGroup) (order : List Nat) : Prop :=
  ∀ i task, g.tasks[i]? = some task →
    if i ∈ order then ∃ result, task = .finished result else ∃ a rest, task = .running a rest

lemma HasFinished.finish {order : List Nat} (h : g.HasFinished order) (i : Nat)
    (result : Except Fault (List Block)) : (g.finish i result).HasFinished (order ++ [i]) := by
  intro j task htask
  rw [TaskGroup.finish, List.getElem?_set] at htask
  split_ifs at htask with hij hlength
  · rw [if_pos (by simp [hij])]
    exact ⟨result, (Option.some.inj htask).symm⟩
  · have hmem : j ∈ order ++ [i] ↔ j ∈ order := by simp [Ne.symm hij]
    simp only [hmem]
    exact h j task htask

/-- Tasks can finish one by one, in any order. -/
lemma exists_runs_hasFinished (passes : Passes) (inputs : List Input) {order : List Nat}
    (hnodup : order.Nodup) (hplace : ∀ i ∈ order, i < inputs.length) :
    ∃ g, Runs passes inputs g ∧ g.tasks.length = inputs.length ∧ g.finishing = order ∧
      g.HasFinished order := by
  induction order using List.reverseRecOn with
  | nil =>
      refine ⟨start inputs, .refl, by simp [start], rfl, fun i task htask => ?_⟩
      rw [start, List.getElem?_map] at htask
      obtain ⟨input, -, rfl⟩ := Option.map_eq_some_iff.mp htask
      exact ⟨_, _, rfl⟩
  | append_singleton order i ih =>
      obtain ⟨hnodup, -, hfresh⟩ := List.nodup_append.mp hnodup
      obtain ⟨g, hruns, hlength, hfinishing, hfinished⟩ :=
        ih hnodup fun j hj => hplace j (by simp [hj])
      have hi : i < g.tasks.length := hlength ▸ hplace i (by simp)
      have htask := hfinished i _ (List.getElem?_eq_getElem hi)
      rw [if_neg fun hmem => hfresh i hmem i (by simp) rfl] at htask
      obtain ⟨a, rest, htask⟩ := htask
      obtain ⟨result, hfinish⟩ :=
        exists_finish passes ((List.getElem?_eq_getElem hi).trans (congrArg some htask))
      refine ⟨g.finish i result, hruns.trans hfinish, ?_, ?_, hfinished.finish i result⟩
      · rw [TaskGroup.finish, List.length_set, hlength]
      · rw [TaskGroup.finish, hfinishing]

/-- **Every order is that of some run.** -/
theorem exists_runs (passes : Passes) {inputs : List Input} {order : List Nat}
    (horder : order.Perm (List.range inputs.length)) :
    ∃ g, Runs passes inputs g ∧ g.Joined ∧ g.finishing = order := by
  obtain ⟨g, hruns, hlength, hfinishing, hfinished⟩ := exists_runs_hasFinished passes inputs
    (horder.nodup_iff.mpr List.nodup_range)
    (fun i hi => List.mem_range.mp (horder.mem_iff.mp hi))
  refine ⟨g, hruns, fun task htask => ?_, hfinishing⟩
  obtain ⟨i, hi, rfl⟩ := List.mem_iff_getElem.mp htask
  have hmem : i ∈ order := horder.mem_iff.mpr (List.mem_range.mpr (hlength ▸ hi))
  have htask := hfinished i _ (List.getElem?_eq_getElem hi)
  rwa [if_pos hmem] at htask

end TaskGroup

end RegisterScript
