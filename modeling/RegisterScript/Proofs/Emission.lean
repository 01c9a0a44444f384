import RegisterScript.Proofs.Feeding
import RegisterScript.Proofs.MachineInvariant

/-!
# What ends up in an output

Blocks are written one at a time, either as the machine closes them or all together.  Into an output
that never fails both ways write the same: the header of the format once, in front of the first
block, and then the bytes of each block (`printed`).  Writing fails only if some block has no form
in the format.

* `Emitter.emitAll_generate`, the generator alone; `emitBlocks_eq` for compiled blocks.
* `writeTrace_of_run` and `run_of_writeTrace`, a trace written as it is read.

Into an output of any kind, `emitBlocks_eq_ok_iff` and `writeTrace_eq_ok_iff` reduce both ways to
the generator.
-/

namespace RegisterScript

/-- Blocks as a script. -/
def Target.script : Target := ⟨1⟩

/-- Blocks as raw packets. -/
def Target.packets : Target := ⟨2⟩

/-- What is written for blocks with these bytes: nothing at all if there are none. -/
def printed (format : Format) : List Bytes → Bytes
  | [] => []
  | bodies => Utf8.encode format.header ++ bodies.flatten

/-- An output takes a chunk, or stays as it is. -/
lemma Output.write_cases (out : Output) (chunk : Bytes) :
    (∃ out', out.write chunk = (out', none) ∧ out'.chunks = chunk :: out.chunks) ∨
      ∃ e, out.write chunk = (out, some e) := by
  rcases out with ⟨chunks, _ | ⟨_ | n, cause⟩⟩
  · exact .inl ⟨_, rfl, rfl⟩
  · exact .inr ⟨cause, rfl⟩
  · exact .inl ⟨_, rfl, rfl⟩

namespace Generator

variable {g : Generator} {out : Output} {b : Block}

lemma emit_of_body {body : Bytes} (hbody : g.format.body b = .ok body) (hg : g.failure = none)
    (hout : out.budget = none) :
    g.emit out b = ({ g with started := true },
      { out with chunks := g.chunk body :: out.chunks }, none) := by
  simp [emit, hbody, hg, Output.write, hout]

/-- **One block** is written, or it is refused and leaves nothing in the output. -/
lemma emit_cases (g : Generator) (out : Output) (b : Block) :
    (∃ body out', g.format.body b = .ok body ∧ g.failure = none ∧
      out'.chunks = g.chunk body :: out.chunks ∧
      g.emit out b = ({ g with started := true }, out', none)) ∨
    ∃ g' f, g.emit out b = (g', out, some f) := by
  cases hbody : g.format.body b with
  | error e => exact .inr ⟨g, _, by simp only [emit, hbody]; rfl⟩
  | ok body =>
      cases hg : g.failure with
      | some e => exact .inr ⟨_, _, by simp only [emit, hbody, hg]; rfl⟩
      | none =>
          rcases out.write_cases (g.chunk body) with ⟨out', hwrite, hchunks⟩ | ⟨e, hwrite⟩
          · exact .inl ⟨body, out', rfl, rfl, hchunks, by simp only [emit, hbody, hg, hwrite]⟩
          · exact .inr ⟨_, _, by simp only [emit, hbody, hg, hwrite]; rfl⟩

end Generator

namespace Emitter

lemma emit_generate {g g' : Generator} {out out' : Output} {b : Block} {f : Option Fault}
    (h : g.emit out b = (g', out', f)) :
    generate.emit (g, out) b = ((g', out'), [.emitting b.name, .listing b], f) := by
  simp only [generate, h]

/-- What it takes to write the first of several blocks. -/
lemma emitAll_generate_cons {g : Generator} {out : Output} {b : Block} {bs : List Block}
    {t : Generator × Output} (h : generate.emitAll (g, out) (b :: bs) = some t) :
    ∃ body out', g.format.body b = .ok body ∧ g.failure = none ∧
      out'.chunks = g.chunk body :: out.chunks ∧
      generate.emitAll ({ g with started := true }, out') bs = some t := by
  obtain ⟨hemit, hrest⟩ := emitAll_cons_eq_some_iff.mp h
  rcases g.emit_cases out b with ⟨body, out', hbody, hg, hchunks, hok⟩ | ⟨g', f, hrefused⟩
  · rw [emit_generate hok] at hrest
    exact ⟨body, out', hbody, hg, hchunks, hrest⟩
  · rw [emit_generate hrefused] at hemit
    cases hemit

/-- If all blocks have been written, the output has not failed. -/
lemma failure_of_emitAll {g : Generator} {out : Output} (hg : g.failure = none) {bs : List Block}
    {t : Generator × Output} (h : generate.emitAll (g, out) bs = some t) :
    t.1.failure = none := by
  induction bs generalizing g out with
  | nil =>
      obtain rfl : (g, out) = t := by simpa using h
      exact hg
  | cons b bs ih =>
      obtain ⟨-, out', -, -, -, hrest⟩ := emitAll_generate_cons h
      exact ih (g := { g with started := true }) hg hrest

/-- If all blocks have been written, they all have a form. -/
lemma body_of_emitAll {g : Generator} {out : Output} {bs : List Block} {t : Generator × Output}
    (h : generate.emitAll (g, out) bs = some t) : ∀ b ∈ bs, ∃ body, g.format.body b = .ok body := by
  induction bs generalizing g out with
  | nil => simp
  | cons b bs ih =>
      obtain ⟨body, out', hbody, -, -, hrest⟩ := emitAll_generate_cons h
      exact List.forall_mem_cons.mpr ⟨⟨body, hbody⟩, ih (g := { g with started := true }) hrest⟩

/-- Blocks that an output has room for are written as if it had room for more. -/
lemma emitAll_unlimited {g g' : Generator} {out out' : Output} {bs : List Block}
    (h : generate.emitAll (g, out) bs = some (g', out')) :
    generate.emitAll (g, { out with budget := none }) bs
      = some (g', { out' with budget := none }) := by
  induction bs generalizing g out with
  | nil =>
      obtain ⟨rfl, rfl⟩ : g = g' ∧ out = out' := by simpa using h
      rfl
  | cons b bs ih =>
      obtain ⟨body, out₁, hbody, hg, hchunks, hrest⟩ := emitAll_generate_cons h
      have hroom : g.emit { out with budget := none } b = _ :=
        Generator.emit_of_body hbody hg rfl
      rw [← hchunks] at hroom
      rw [emitAll_cons_eq_some_iff, emit_generate hroom]
      exact ⟨rfl, ih hrest⟩

/-- The generator alone, from any point on. -/
lemma emitAll_generate_from (g : Generator) (out : Output) (hg : g.failure = none)
    (hout : out.budget = none) {bs : List Block} {body : Block → Bytes}
    (hbody : ∀ b ∈ bs, g.format.body b = .ok (body b)) :
    ∃ g' out', generate.emitAll (g, out) bs = some (g', out') ∧ g'.failure = none ∧
      out'.contents = out.contents ++
        (if g.started then (bs.map body).flatten else printed g.format (bs.map body)) := by
  induction bs generalizing g out with
  | nil => exact ⟨g, out, rfl, hg, by simp [printed]⟩
  | cons b bs ih =>
      have hemit := Generator.emit_of_body (hbody b (by simp)) hg hout
      obtain ⟨g', out', hall, hg', hcontents⟩ := ih { g with started := true }
        { out with chunks := g.chunk (body b) :: out.chunks } hg hout
        fun b' hb' => hbody b' (by simp [hb'])
      refine ⟨g', out', ?_, hg', ?_⟩
      · rw [emitAll_cons_of_accepted (by simp [generate, hemit])]
        simpa [generate, hemit] using hall
      · rw [hcontents]
        cases hstarted : g.started <;>
          simp [Output.contents, Generator.chunk, hstarted, printed]

/-- **A fresh generator** writes every block if all of them have a form. -/
theorem emitAll_generate (format : Format) {bs : List Block} {body : Block → Bytes}
    (hbody : ∀ b ∈ bs, format.body b = .ok (body b)) :
    ∃ g out, generate.emitAll ({ format := format }, {}) bs = some (g, out) ∧ g.failure = none ∧
      out.contents = printed format (bs.map body) :=
  emitAll_generate_from { format := format } {} rfl rfl hbody

end Emitter

/-! ## Compiled blocks -/

lemma emitBlocksFrom_of_emitAll {t t' : Generator × Output} {bs : List Block}
    (h : Emitter.generate.emitAll t bs = some t') (notes : List Note) :
    ∃ notes', emitBlocksFrom t notes bs = (t', notes', t'.1.close) := by
  induction bs generalizing t notes with
  | nil =>
      obtain rfl : t = t' := by simpa using h
      exact ⟨notes, rfl⟩
  | cons b bs ih =>
      obtain ⟨hemit, hrest⟩ := Emitter.emitAll_cons_eq_some_iff.mp h
      simp only [emitBlocksFrom, hemit]
      exact ih hrest _

lemma emitBlocksFrom_of_refused {t : Generator × Output} {bs : List Block}
    (h : Emitter.generate.emitAll t bs = none) (notes : List Note) :
    (emitBlocksFrom t notes bs).2.2 ≠ none := by
  induction bs generalizing t notes with
  | nil => cases h
  | cons b bs ih =>
      cases hemit : (Emitter.generate.emit t b).2.2 with
      | some f => simp [emitBlocksFrom, hemit]
      | none =>
          rw [Emitter.emitAll_cons_of_accepted hemit] at h
          simp only [emitBlocksFrom, hemit]
          exact ih h _

/-- **What it takes to write compiled blocks**: the generator accepts all of them. -/
theorem emitBlocks_eq_ok_iff {config : Config} {format : Format}
    (hformat : config.target.format config.mode = .ok format) {bs : List Block}
    {names : List String} {out out' : Output} :
    ((emitBlocks config bs out).1.result = .ok names ∧ (emitBlocks config bs out).2 = out') ↔
      bs.map Block.name = names ∧
        ∃ g, Emitter.generate.emitAll ({ format := format }, out) bs = some (g, out') := by
  simp only [emitBlocks, hformat]
  cases hall : Emitter.generate.emitAll ({ format := format }, out) bs with
  | none =>
      obtain ⟨f, hf⟩ := Option.ne_none_iff_exists'.mp (emitBlocksFrom_of_refused hall [])
      simp [hf]
  | some t =>
      have hg : t.1.failure = none := Emitter.failure_of_emitAll rfl hall
      obtain ⟨notes, hblocks⟩ := emitBlocksFrom_of_emitAll hall []
      simp [hblocks, Generator.close, hg, Prod.ext_iff]

/-- **Compiled blocks** are written if all of them have a form. -/
theorem emitBlocks_eq {config : Config} {format : Format}
    (hformat : config.target.format config.mode = .ok format) {bs : List Block}
    {body : Block → Bytes} (hbody : ∀ b ∈ bs, format.body b = .ok (body b)) :
    (emitBlocks config bs {}).1.result = .ok (bs.map Block.name) ∧
      (emitBlocks config bs {}).2.contents = printed format (bs.map body) := by
  obtain ⟨g, out, hall, -, hcontents⟩ := Emitter.emitAll_generate format hbody
  rw [← hcontents]
  exact And.imp_right (congrArg Output.contents)
    ((emitBlocks_eq_ok_iff hformat).mpr ⟨rfl, g, hall⟩)

/-! ## Traces -/

section Traces

variable {config : Config} {canceled : Bool} {name : String} {wrap : Fault → Fault} {t : Trace}
  {format : Format}

/-- **What it takes to write a trace**: the machine accepts it, and the generator all its blocks. -/
theorem writeTrace_eq_ok_iff (hformat : config.target.format config.mode = .ok format)
    {names : List String} {out out' : Output} :
    ((writeTrace config canceled name wrap t out).1.result = .ok names ∧
      (writeTrace config canceled name wrap t out).2 = out') ↔
    t.fault = none ∧ ∃ m bs g, Machine.run config.passes {} t.events = some (m, bs) ∧
      (canceled = true → bs = []) ∧
      Emitter.generate.emitAll ({ format := format }, out) bs = some (g, out') ∧
      bs.map Block.name = names := by
  simp only [writeTrace, hformat]
  constructor
  · rintro ⟨h, hout⟩
    cases hfeed : t.feed (Assembly.sink config.passes (Emitter.generate.cancelable canceled))
        { target := ({ format := format }, out) } with
    | mk a fault =>
        cases fault with
        | some f => simp [hfeed] at h
        | none =>
            obtain ⟨hfault, bs, hrun, hemit⟩ := (feed_eq_none_iff config.passes
              (Emitter.generate.cancelable canceled) t _ a.target a.machine).mp ⟨a.notes, hfeed⟩
            obtain ⟨hall, hcanceled⟩ := Emitter.emitAll_cancelable_eq_some_iff.mp hemit
            rw [hfeed] at hout
            refine ⟨hfault, a.machine, bs, a.target.1, hrun, hcanceled, by rw [hall, ← hout], ?_⟩
            rw [Machine.map_name_eq_closedBlocks hrun]
            cases hclose : a.target.1.close with
            | some f => simp [hfeed, hclose] at h
            | none => simpa [hfeed, hclose] using h
  · rintro ⟨hfault, m, bs, g, hrun, hcanceled, hall, rfl⟩
    have hg : g.failure = none := Emitter.failure_of_emitAll rfl hall
    obtain ⟨notes, hfeed⟩ := (feed_eq_none_iff config.passes
      (Emitter.generate.cancelable canceled) t _ _ m).mpr
        ⟨hfault, bs, hrun, Emitter.emitAll_cancelable_eq_some_iff.mpr ⟨hall, hcanceled⟩⟩
    simp [hfeed, Generator.close, hg, Machine.map_name_eq_closedBlocks hrun]

/-- **A trace is written** if the machine accepts it and all its blocks have a form. -/
theorem writeTrace_of_run (hformat : config.target.format config.mode = .ok format)
    (hfault : t.fault = none) {m : Machine} {bs : List Block}
    (hrun : Machine.run config.passes {} t.events = some (m, bs))
    (hcanceled : canceled = true → bs = []) {body : Block → Bytes}
    (hbody : ∀ b ∈ bs, format.body b = .ok (body b)) :
    (writeTrace config canceled name wrap t {}).1.result = .ok (bs.map Block.name) ∧
      (writeTrace config canceled name wrap t {}).2.contents = printed format (bs.map body) := by
  obtain ⟨g, out, hall, -, hcontents⟩ := Emitter.emitAll_generate format hbody
  rw [← hcontents]
  exact And.imp_right (congrArg Output.contents) ((writeTrace_eq_ok_iff hformat).mpr
    ⟨hfault, m, bs, g, hrun, hcanceled, hall, rfl⟩)

/-- If a trace has been written, the machine has accepted it and all its blocks have a form. -/
theorem run_of_writeTrace (hformat : config.target.format config.mode = .ok format)
    {names : List String}
    (h : (writeTrace config canceled name wrap t {}).1.result = .ok names) :
    t.fault = none ∧ ∃ m bs, Machine.run config.passes {} t.events = some (m, bs) ∧
      (canceled = true → bs = []) ∧ ∀ b ∈ bs, ∃ body, format.body b = .ok body := by
  obtain ⟨hfault, m, bs, g, hrun, hcanceled, hall, -⟩ :=
    (writeTrace_eq_ok_iff hformat).mp ⟨h, rfl⟩
  exact ⟨hfault, m, bs, hrun, hcanceled, Emitter.body_of_emitAll hall⟩

end Traces

end RegisterScript
