import RegisterScript.Proofs.Emission
import RegisterScript.Proofs.Reading

/-!
# Writing while reading

`compileTo` writes every block as soon as it is closed, long before it is known whether the rest of
the script is any good.  `compile` and `emitBlocks` do one thing after the other.  If all goes well,
nobody can tell which way was taken: `compileTo_eq_ok_iff`, for outputs that fail at any point.

If something goes wrong, `compileTo` has already written something.  `Reaches` says how much, in
terms of the events of the script: those before the first that the machine refuses, or whose block
cannot be written.  There is one such point in every script (`exists_reaches`,
`Reaches.accepted_eq`), and what is in the output then is what `emitBlocks` writes for the blocks
that were closed before it.
-/

namespace RegisterScript

/-- How far a script gets.  The machine takes the events `taken`, which lead to `m`, and the blocks
that they close can all be written; if the run has been called off, there are none.  The next event,
if there is one, is refused by the machine, or the block that it closes cannot be written as
well. -/
structure Reaches (config : Config) (canceled : Bool) (out : Output) (events taken : List Event)
    (m : Machine) (accepted : List Block) : Prop where
  first : taken <+: events
  run : Machine.run config.passes {} taken = some (m, accepted)
  written : ∃ names, (emitBlocks config accepted out).1.result = .ok names
  calledOff : canceled = true → accepted = []
  stopped : ∀ e rest, events = taken ++ e :: rest →
    m.advance config.passes e = none ∨
      ∃ m' b, m.advance config.passes e = some (m', some b) ∧
        (canceled = true ∨ ∃ f, (emitBlocks config (accepted ++ [b]) out).1.result = .error f)

/-! ## How far a script gets -/

/-- If blocks can be written, so can those in front of them. -/
lemma emitBlocks_of_append {config : Config} {bs bs' : List Block} {out : Output}
    {names : List String} (h : (emitBlocks config (bs ++ bs') out).1.result = .ok names) :
    ∃ names', (emitBlocks config bs out).1.result = .ok names' := by
  cases hformat : config.target.format config.mode with
  | error f => simp [emitBlocks, hformat] at h
  | ok format =>
      obtain ⟨-, g, hall⟩ := (emitBlocks_eq_ok_iff hformat).mp ⟨h, rfl⟩
      rw [Emitter.emitAll_append, Option.bind_eq_some_iff] at hall
      obtain ⟨t, hfront, -⟩ := hall
      exact ⟨_, ((emitBlocks_eq_ok_iff hformat).mpr ⟨rfl, t.1, hfront⟩).1⟩

namespace Reaches

variable {config : Config} {canceled : Bool} {out : Output} {events taken taken' : List Event}
  {m m' : Machine} {accepted accepted' : List Block}

/-- Where a script is stopped, it gets no further. -/
lemma taken_eq_of_prefix (h : Reaches config canceled out events taken m accepted)
    (h' : Reaches config canceled out events taken' m' accepted') (hle : taken <+: taken') :
    taken = taken' := by
  obtain ⟨more, rfl⟩ := hle
  cases more with
  | nil => rw [List.append_nil]
  | cons e more =>
      -- The longer one has taken the very event that stops the shorter one.
      exfalso
      obtain ⟨rest, hevents⟩ := h'.first
      have hrun := h'.run
      simp only [Machine.run_append, h.run, Option.bind_some, Option.map_eq_some_iff, Prod.exists,
        Prod.mk.injEq] at hrun
      obtain ⟨_, _, hmore, -, rfl⟩ := hrun
      obtain ⟨m₁, handed, later, hadv, -, rfl⟩ := Machine.run_cons_eq_some hmore
      rcases h.stopped e (more ++ rest) (by simp [← hevents]) with hnone | ⟨m₂, b, hb, hfull⟩
      · rw [hnone] at hadv
        cases hadv
      · rw [hb] at hadv
        cases hadv
        rcases hfull with hcanceled | ⟨f, hf⟩
        · simpa using h'.calledOff hcanceled
        · obtain ⟨names, hnames⟩ := h'.written
          rw [Option.toList_some, ← List.append_assoc] at hnames
          obtain ⟨names', hnames'⟩ := emitBlocks_of_append hnames
          rw [hf] at hnames'
          cases hnames'

/-- **There is only one such place.** -/
lemma accepted_eq (h : Reaches config canceled out events taken m accepted)
    (h' : Reaches config canceled out events taken' m' accepted') : accepted = accepted' := by
  have htaken : taken = taken' := by
    rcases List.prefix_or_prefix_of_prefix h.first h'.first with hle | hle
    · exact h.taken_eq_of_prefix h' hle
    · exact (h'.taken_eq_of_prefix h hle).symm
  subst htaken
  exact (Prod.mk.inj (Option.some.inj (h.run.symm.trans h'.run))).2

end Reaches

/-! ## What is left in the output -/

/-- A block that is rejected, or comes when the run has been called off, leaves nothing. -/
lemma Emitter.output_of_rejected {canceled : Bool} {t : Generator × Output} {b : Block}
    (h : ((generate.cancelable canceled).emit t b).2.2 ≠ none) :
    ((generate.cancelable canceled).emit t b).1.2 = t.2 := by
  cases canceled with
  | true => rfl
  | false =>
      rcases t.1.emit_cases t.2 b with ⟨-, out', -, -, -, hok⟩ | ⟨g', f, hrefused⟩
      · simp [cancelable, generate, hok] at h
      · simp [cancelable, generate, hrefused]

/-- Where a feeding halts, nothing more gets into the output. -/
lemma Halts.output {passes : Passes} {canceled : Bool} {m : Machine} {t : Generator × Output}
    {rest : List Event} {fed : Assembly (Generator × Output) × Option Fault}
    (h : Halts passes (Emitter.generate.cancelable canceled) m t rest fed) :
    fed.1.target.2 = t.2 := by
  cases h with
  | finished notes => rfl
  | refused _ htarget => exact congrArg Prod.snd htarget
  | rejected _ hrejected htarget =>
      exact (congrArg Prod.snd htarget).trans (Emitter.output_of_rejected hrejected)

section Known

variable {config : Config} {format : Format}
  (hformat : config.target.format config.mode = .ok format)

include hformat

lemma output_writeTrace {canceled : Bool} {name : String} {wrap : Fault → Fault} {t : Trace}
    {out : Output} :
    (writeTrace config canceled name wrap t out).2 =
      (feedItems (Assembly.sink config.passes (Emitter.generate.cancelable canceled))
        { target := ({ format := format }, out) } t.items).1.target.2 := by
  simp only [writeTrace, hformat, Trace.feed]
  rcases feedItems _ _ t.items with ⟨a, _ | f⟩ <;> rfl

/-- **Both ways come to the same.** -/
lemma compileTo_eq_ok_iff {canceled : Bool} {s : Source} {out out' : Output}
    {names : List String} :
    ((compileTo config canceled s out).1.result = .ok names ∧
      (compileTo config canceled s out).2 = out') ↔
    ∃ bs, (compile config.passes canceled s).result = .ok bs ∧
      (emitBlocks config bs out).1.result = .ok names ∧ (emitBlocks config bs out).2 = out' := by
  rw [compileTo, writeTrace_eq_ok_iff hformat]
  simp only [compile_eq_ok_iff, emitBlocks_eq_ok_iff hformat]
  constructor
  · rintro ⟨hfault, m, bs, g, hrun, hcanceled, hall, hnames⟩
    exact ⟨bs, ⟨hfault, ⟨m, hrun⟩, hcanceled⟩, hnames, g, hall⟩
  · rintro ⟨bs, ⟨hfault, ⟨m, hrun⟩, hcanceled⟩, hnames, g, hall⟩
    exact ⟨hfault, m, bs, g, hrun, hcanceled, hall, hnames⟩

/-- A block that a generator rejects cannot be written behind those that it has accepted. -/
lemma emitBlocks_concat_of_rejected {bs : List Block} {b : Block} {out : Output}
    {t : Generator × Output}
    (hall : Emitter.generate.emitAll ({ format := format }, out) bs = some t)
    (hrejected : (Emitter.generate.emit t b).2.2 ≠ none) :
    ∃ f, (emitBlocks config (bs ++ [b]) out).1.result = .error f := by
  cases hresult : (emitBlocks config (bs ++ [b]) out).1.result with
  | error f => exact ⟨f, rfl⟩
  | ok names =>
      obtain ⟨-, g, hwritten⟩ := (emitBlocks_eq_ok_iff hformat).mp ⟨hresult, rfl⟩
      rw [Emitter.emitAll_append, hall, Option.bind_some,
        Emitter.emitAll_cons_eq_some_iff] at hwritten
      exact absurd hwritten.1 hrejected

/-- **How far a script gets**, and what it leaves in the output. -/
lemma exists_reaches (canceled : Bool) (s : Source) (out : Output) :
    ∃ taken m accepted, Reaches config canceled out s.trace.events taken m accepted ∧
      (compileTo config canceled s out).2 = (emitBlocks config accepted out).2 := by
  obtain ⟨taken, rest, m, bs, t, hsplit, hrun, hemit, hhalts⟩ :=
    feedItems_halts config.passes (Emitter.generate.cancelable canceled)
      { target := (({ format := format }, out) : Generator × Output) } s.trace.items
  obtain ⟨hall, hcanceled⟩ := Emitter.emitAll_cancelable_eq_some_iff.mp hemit
  have hwritten : (emitBlocks config bs out).1.result = .ok (bs.map Block.name) ∧
      (emitBlocks config bs out).2 = t.2 := (emitBlocks_eq_ok_iff hformat).mpr ⟨rfl, t.1, hall⟩
  have hevents : s.trace.events = taken ++ rest := hsplit
  refine ⟨taken, m, bs, ⟨hevents ▸ List.prefix_append taken rest, hrun, ⟨_, hwritten.1⟩,
    hcanceled, ?_⟩, ?_⟩
  · intro e rest' hnext
    obtain rfl : rest = e :: rest' := List.append_cancel_left (hevents.symm.trans hnext)
    generalize feedItems _ _ _ = fed at hhalts
    cases hhalts with
    | refused hrefused _ => exact .inl hrefused
    | @rejected _ _ m' b _ _ hclosed hrejected _ =>
        refine .inr ⟨m', b, hclosed, ?_⟩
        cases canceled with
        | true => exact .inl rfl
        | false => exact .inr (emitBlocks_concat_of_rejected hformat hall hrejected)
  · rw [hwritten.2, ← hhalts.output]
    exact output_writeTrace hformat

end Known

/-! ## Both ways -/

/-- **Writing while reading.**  A script is compiled straight into an output, with certain names and
a certain result in the output, exactly if it compiles to blocks that are written with these names
and this result.  And however a run ends, it gets as far as to some point, unless the target is
unknown, and there is in the output what is written for the blocks that were closed and accepted
until then. -/
theorem compileTo_streams (config : Config) (canceled : Bool) (s : Source) (out : Output) :
    (∀ names out', ((compileTo config canceled s out).1.result = .ok names ∧
        (compileTo config canceled s out).2 = out') ↔
      ∃ bs, (compile config.passes canceled s).result = .ok bs ∧
        (emitBlocks config bs out).1.result = .ok names ∧ (emitBlocks config bs out).2 = out') ∧
    (∀ taken m accepted, Reaches config canceled out s.trace.events taken m accepted →
      (compileTo config canceled s out).2 = (emitBlocks config accepted out).2) ∧
    ((∃ taken m accepted, Reaches config canceled out s.trace.events taken m accepted) ∨
      (∃ f, config.target.format config.mode = .error f) ∧
        (compileTo config canceled s out).2 = out) := by
  cases hformat : config.target.format config.mode with
  | ok format =>
      obtain ⟨taken, m, accepted, hreached, hout⟩ := exists_reaches hformat canceled s out
      refine ⟨fun names out' => compileTo_eq_ok_iff hformat, ?_, .inl ⟨_, _, _, hreached⟩⟩
      intro taken' m' accepted' hreached'
      rw [hout, hreached.accepted_eq hreached']
  | error f =>
      refine ⟨?_, ?_, .inr ⟨⟨f, rfl⟩, ?_⟩⟩
      · simp [compileTo, writeTrace, emitBlocks, hformat]
      · simp [compileTo, writeTrace, emitBlocks, hformat]
      · simp [compileTo, writeTrace, hformat]

/-- A script with two blocks. -/
def Source.pair : Source where
  name := "pair"
  text := "first { fog 1; } second { fog 2; }".toList

/-- The blocks of that script. -/
def Source.pairBlocks : List Block :=
  [{ name := "first", writes := [.fog 1] }, { name := "second", writes := [.fog 2] }]

/-- They go into an output with room for two chunks, and not into one with room for one. -/
theorem compileTo_streams_pair :
    (compileTo { target := .packets } false .pair { budget := some (2, .broken "full") }).1.result
        = .ok ["first", "second"] ∧
      ∀ names, (compileTo { target := .packets } false .pair
        { budget := some (1, .broken "full") }).1.result ≠ .ok names := by
  have hcompile : (compile .none false .pair).result = .ok Source.pairBlocks :=
    compile_of_evaluated (by decide +kernel) (by decide +kernel)
  constructor
  · refine (((compileTo_streams { target := .packets } false .pair _).1 _ _).mpr
      ⟨_, hcompile, ?_, rfl⟩).1
    decide +kernel
  · intro names h
    obtain ⟨bs, hbs, hnames, -⟩ :=
      ((compileTo_streams { target := .packets } false .pair _).1 names _).mp ⟨h, rfl⟩
    obtain rfl := Except.ok.inj (hcompile.symm.trans hbs)
    have hfull : (emitBlocks { target := .packets } Source.pairBlocks
        { budget := some (1, .broken "full") }).1.result = .error (.device (.broken "full")) := by
      decide +kernel
    exact nomatch hfull.symm.trans hnames

end RegisterScript
