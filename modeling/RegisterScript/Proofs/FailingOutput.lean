import RegisterScript.Proofs.PacketRoundTrip

/-!
# Writing into an output that fails

A generator goes on taking blocks after its output has failed, and after it has refused a block that
is too long.  Neither may be forgotten: what stands in the output has to be the front of what would
have been written into one that never fails, and the failure has to come up again whenever somebody
asks.

**Forms.**  `Format.encodes` says which blocks have a form, and `Format.bytes` is that form.  A
block without one passes by (`Generator.emit_of_not_encodes`).

**One step.**  What a step does depends on how many blocks with a form there have been.  As long as
there is room the block is written; the first that finds none is lost together with all later ones.
`EmitRun.Reached` says where a generator and its output are then, and `EmitRun.Reached.step` that
one more step gets them to the next such place.

A device may give another reason each time it fails.  So every step comes with the reason that the
device would give during that step (`Output.blaming`), and it can be seen which of them is reported.
-/

namespace RegisterScript

/-! ## Forms -/

/-- Whether a block has a form: the count in a tag is limited, a script has no counts. -/
def Format.encodes : Format → Block → Bool
  | script, _ => true
  | cArray _, b | packets, b => b.writes.length ≤ Tag.maxLoops

/-- The form of a block, if it has one. -/
def Format.bytes (format : Format) (b : Block) : Bytes := (format.body b).toOption.getD []

lemma Block.tag_of_long {b : Block} (h : Tag.maxLoops < b.writes.length) :
    b.tag = .error ⟨b.name, b.writes.length⟩ := by
  simp [tag, Nat.not_le.mpr h]

/-- **A block has a form**, or it is too long. -/
lemma Format.body_eq (format : Format) (b : Block) :
    format.body b = if format.encodes b then .ok (format.bytes b)
      else .error ⟨b.name, b.writes.length⟩ := by
  by_cases hlength : b.writes.length ≤ Tag.maxLoops
  · have htag := Block.tag_eq_header hlength
    cases format <;>
      simp [encodes, bytes, body, CArray.render, Block.words, htag, hlength, Except.map,
        Except.toOption]
  · have htag := Block.tag_of_long (Nat.not_le.mp hlength)
    cases format <;>
      simp [encodes, bytes, body, CArray.render, Block.words, htag, hlength, Except.map,
        Except.toOption]

/-- One more block behind others. -/
lemma printed_concat (format : Format) (bodies : List Bytes) (body : Bytes) :
    printed format (bodies ++ [body])
      = printed format bodies
        ++ if bodies.isEmpty then Utf8.encode format.header ++ body else body := by
  cases bodies <;> simp [printed]

/-- Packets have nothing in front of the first block. -/
lemma printed_packets_eq_flatten (bodies : List Bytes) :
    printed .packets bodies = bodies.flatten := by
  cases bodies <;> simp [printed, Format.header, Utf8.encode]

/-! ## One step -/

/-- The same device, with another reason to give should it fail. -/
def Output.blaming (out : Output) (reason : DeviceError) : Output :=
  { out with budget := out.budget.map fun budget => (budget.1, reason) }

namespace Generator

variable {g : Generator} {out : Output} {b : Block}

/-- **A block without a form** passes by. -/
lemma emit_of_not_encodes (h : g.format.encodes b = false) (out : Output) :
    g.emit out b = (g, out, some (.tooManyWrites ⟨b.name, b.writes.length⟩)) := by
  simp [emit, Format.body_eq, h]

/-- A block that finds room is written. -/
lemma emit_of_room (h : g.format.encodes b = true) (hg : g.failure = none) {room : Nat}
    {reason : DeviceError} (hout : out.budget = some (room + 1, reason)) :
    g.emit out b = ({ g with started := true },
      { chunks := g.chunk (g.format.bytes b) :: out.chunks, budget := some (room, reason) },
      none) := by
  simp [emit, Format.body_eq, h, hg, Output.write, hout]

/-- The first block that finds none is lost, and the reason is remembered. -/
lemma emit_of_full (h : g.format.encodes b = true) (hg : g.failure = none) {reason : DeviceError}
    (hout : out.budget = some (0, reason)) :
    g.emit out b = ({ g with started := true, failure := some reason }, out,
      some (.device reason)) := by
  simp [emit, Format.body_eq, h, hg, Output.write, hout]

/-- Later ones are lost for the same reason, and the output is left alone. -/
lemma emit_of_failed (h : g.format.encodes b = true) {reason : DeviceError}
    (hg : g.failure = some reason) (out : Output) :
    g.emit out b = ({ g with started := true }, out, some (.device reason)) := by
  simp [emit, Format.body_eq, h, hg]

end Generator

/-- A generator and its output at work, with the replies to the blocks so far. -/
structure EmitRun where
  generator : Generator
  output : Output
  replies : List (Option Fault) := []

namespace EmitRun

/-- A fresh generator and an empty output with room for `n` chunks. -/
def start (format : Format) (n : Nat) (reason : DeviceError) : EmitRun where
  generator := { format := format }
  output := { budget := some (n, reason) }

/-- One more block, with the reason that the device gives if it fails now. -/
def step (run : EmitRun) (s : Block × DeviceError) : EmitRun :=
  let (g, out, reply) := run.generator.emit (run.output.blaming s.2) s.1
  { generator := g, output := out, replies := run.replies ++ [reply] }

/-- All blocks in a row, whatever becomes of each. -/
def steps (run : EmitRun) (ss : List (Block × DeviceError)) : EmitRun := ss.foldl step run

lemma step_of_emit {run : EmitRun} {s : Block × DeviceError} {g : Generator} {out : Output}
    {reply : Option Fault} (h : run.generator.emit (run.output.blaming s.2) s.1 = (g, out, reply)) :
    run.step s = { generator := g, output := out, replies := run.replies ++ [reply] } := by
  simp only [step, h]

lemma steps_concat (run : EmitRun) (ss : List (Block × DeviceError)) (s : Block × DeviceError) :
    run.steps (ss ++ [s]) = (run.steps ss).step s := by
  simp [steps]

end EmitRun

/-- The steps whose blocks have a form. -/
def Format.encodable (format : Format) (ss : List (Block × DeviceError)) :
    List (Block × DeviceError) := ss.filter fun s => format.encodes s.1

namespace EmitRun

variable {format : Format} {n : Nat} {ss : List (Block × DeviceError)} {run : EmitRun}

/-- Where generator and output are after some steps. -/
structure Reached (format : Format) (n : Nat) (ss : List (Block × DeviceError)) (run : EmitRun) :
    Prop where
  kept : run.generator.format = format
  started : run.generator.started = !(format.encodable ss).isEmpty
  failure : run.generator.failure = ((format.encodable ss)[n]?).map Prod.snd
  room : ∃ reason, run.output.budget = some (n - (format.encodable ss).length, reason)
  contents : run.output.contents
    = printed format (((format.encodable ss).take n).map fun s => format.bytes s.1)

lemma reached_start (format : Format) (n : Nat) (reason : DeviceError) :
    Reached format n [] (start format n reason) where
  kept := rfl
  started := rfl
  failure := rfl
  room := ⟨reason, rfl⟩
  contents := by simp [start, Output.contents, Format.encodable, printed]

namespace Reached

variable {s : Block × DeviceError}

lemma blaming (h : Reached format n ss run) (reason : DeviceError) :
    (run.output.blaming reason).budget = some (n - (format.encodable ss).length, reason) := by
  obtain ⟨old, hroom⟩ := h.room
  simp [Output.blaming, hroom]

lemma step_of_not_encodes (h : Reached format n ss run) (hs : format.encodes s.1 = false) :
    Reached format n (ss ++ [s]) (run.step s) ∧
      (run.step s).replies
        = run.replies ++ [some (.tooManyWrites ⟨s.1.name, s.1.writes.length⟩)] := by
  have hemit := Generator.emit_of_not_encodes (h.kept.symm ▸ hs) (run.output.blaming s.2)
  have hsame : format.encodable (ss ++ [s]) = format.encodable ss := by
    simp [Format.encodable, hs]
  rw [step_of_emit hemit]
  refine ⟨⟨h.kept, ?_, ?_, ⟨s.2, ?_⟩, ?_⟩, rfl⟩
  · rw [hsame, h.started]
  · rw [hsame, h.failure]
  · rw [hsame, h.blaming]
  · rw [hsame, ← h.contents]
    rfl

lemma encodable_concat (hs : format.encodes s.1 = true) :
    format.encodable (ss ++ [s]) = format.encodable ss ++ [s] := by
  simp [Format.encodable, hs]

lemma step_of_room (h : Reached format n ss run) (hs : format.encodes s.1 = true)
    (hroom : (format.encodable ss).length < n) :
    Reached format n (ss ++ [s]) (run.step s) ∧
      (run.step s).replies = run.replies ++ [none] := by
  have hnone : run.generator.failure = none := by
    rw [h.failure, List.getElem?_eq_none (by omega)]
    rfl
  have hbudget : (run.output.blaming s.2).budget
      = some (n - (format.encodable ss).length - 1 + 1, s.2) := by
    rw [h.blaming, Nat.sub_add_cancel (by omega)]
  have hemit := Generator.emit_of_room (h.kept.symm ▸ hs) hnone hbudget
  have htake : (format.encodable ss).take n = format.encodable ss :=
    List.take_of_length_le (by omega)
  have htake' : (format.encodable ss ++ [s]).take n = format.encodable ss ++ [s] :=
    List.take_of_length_le (by simp; omega)
  rw [step_of_emit hemit]
  refine ⟨⟨h.kept, ?_, ?_, ⟨s.2, ?_⟩, ?_⟩, rfl⟩
  · simp [encodable_concat hs]
  · rw [encodable_concat hs, List.getElem?_eq_none (by simp; omega), hnone]
    rfl
  · rw [encodable_concat hs, List.length_append, List.length_singleton, Nat.sub_sub]
  · have hcontents := h.contents
    rw [htake] at hcontents
    rw [encodable_concat hs, htake', List.map_append, List.map_singleton, printed_concat,
      ← hcontents]
    simp [Output.contents, Output.blaming, Generator.chunk, h.started, h.kept]

lemma step_of_full (h : Reached format n ss run) (hs : format.encodes s.1 = true)
    (hfull : (format.encodable ss).length = n) :
    Reached format n (ss ++ [s]) (run.step s) ∧
      (run.step s).replies = run.replies ++ [some (.device s.2)] := by
  have hnone : run.generator.failure = none := by
    rw [h.failure, List.getElem?_eq_none (by omega)]
    rfl
  have hbudget : (run.output.blaming s.2).budget = some (0, s.2) := by
    rw [h.blaming, hfull, Nat.sub_self]
  have hemit := Generator.emit_of_full (h.kept.symm ▸ hs) hnone hbudget
  rw [step_of_emit hemit]
  refine ⟨⟨h.kept, ?_, ?_, ⟨s.2, ?_⟩, ?_⟩, rfl⟩
  · simp [encodable_concat hs]
  · simp [encodable_concat hs, ← hfull]
  · rw [hbudget, encodable_concat hs, List.length_append, List.length_singleton,
      Nat.sub_eq_zero_of_le (by omega)]
  · rw [encodable_concat hs, List.take_append_of_le_length (by omega), ← h.contents]
    rfl

lemma step_of_failed (h : Reached format n ss run) (hs : format.encodes s.1 = true)
    {first : Block × DeviceError} (hfirst : (format.encodable ss)[n]? = some first) :
    Reached format n (ss ++ [s]) (run.step s) ∧
      (run.step s).replies = run.replies ++ [some (.device first.2)] := by
  have hlength : n < (format.encodable ss).length := (List.getElem?_eq_some_iff.mp hfirst).1
  have hfailure : run.generator.failure = some first.2 := by
    rw [h.failure, hfirst]
    rfl
  have hemit := Generator.emit_of_failed (h.kept.symm ▸ hs) hfailure (run.output.blaming s.2)
  rw [step_of_emit hemit]
  refine ⟨⟨h.kept, ?_, ?_, ⟨s.2, ?_⟩, ?_⟩, rfl⟩
  · simp [encodable_concat hs]
  · rw [encodable_concat hs, List.getElem?_append_left hlength, hfirst, hfailure]
    rfl
  · rw [h.blaming, encodable_concat hs, List.length_append, List.length_singleton,
      Nat.sub_eq_zero_of_le (by omega), Nat.sub_eq_zero_of_le (by omega)]
  · rw [encodable_concat hs, List.take_append_of_le_length (by omega), ← h.contents]
    rfl

/-- **One more step** gets generator and output to the next such place. -/
theorem step (h : Reached format n ss run) (s : Block × DeviceError) :
    Reached format n (ss ++ [s]) (run.step s) := by
  cases hs : format.encodes s.1 with
  | false => exact (h.step_of_not_encodes hs).1
  | true =>
      rcases Nat.lt_trichotomy (format.encodable ss).length n with hroom | hfull | hfailed
      · exact (h.step_of_room hs hroom).1
      · exact (h.step_of_full hs hfull).1
      · exact (h.step_of_failed hs (List.getElem?_eq_getElem hfailed)).1

end Reached

/-! ## All steps -/

lemma reached_steps (format : Format) (n : Nat) (reason : DeviceError)
    (ss : List (Block × DeviceError)) : Reached format n ss ((start format n reason).steps ss) := by
  induction ss using List.reverseRecOn with
  | nil => exact reached_start format n reason
  | append_singleton ss s ih =>
      rw [steps_concat]
      exact ih.step s

lemma replies_step (run : EmitRun) (s : Block × DeviceError) :
    ∃ reply, (run.step s).replies = run.replies ++ [reply] :=
  ⟨_, congrArg replies (step_of_emit rfl)⟩

lemma length_replies_steps (run : EmitRun) (ss : List (Block × DeviceError)) :
    (run.steps ss).replies.length = run.replies.length + ss.length := by
  induction ss using List.reverseRecOn with
  | nil => rfl
  | append_singleton ss s ih =>
      obtain ⟨reply, hreply⟩ := (run.steps ss).replies_step s
      rw [steps_concat, hreply, List.length_append, List.length_append, ih]
      rfl

/-- Replies are never taken back. -/
lemma replies_kept (run : EmitRun) (ss ss' : List (Block × DeviceError)) :
    (run.steps ss).replies <+: (run.steps (ss ++ ss')).replies := by
  induction ss' using List.reverseRecOn with
  | nil => simp
  | append_singleton ss' s ih =>
      obtain ⟨reply, hreply⟩ := (run.steps (ss ++ ss')).replies_step s
      rw [← List.append_assoc, steps_concat, hreply]
      exact ih.trans (List.prefix_append _ _)

/-- The reply to a step is the one that it got, whatever came behind. -/
lemma getElem?_replies {reason : DeviceError} {before after : List (Block × DeviceError)}
    {s : Block × DeviceError} {reply : Option Fault}
    (h : (((start format n reason).steps before).step s).replies
      = ((start format n reason).steps before).replies ++ [reply]) :
    ((start format n reason).steps (before ++ s :: after)).replies[before.length]?
      = some reply := by
  have hlength : ((start format n reason).steps before).replies.length = before.length := by
    rw [length_replies_steps, start, List.length_nil, Nat.zero_add]
  obtain ⟨later, hlater⟩ := (start format n reason).replies_kept (before ++ [s]) after
  rw [List.append_assoc, List.singleton_append, steps_concat, h] at hlater
  simp [← hlater, ← hlength]

/-- **Writing into an output that fails.**  Blocks go through a generator one after the other into
an output with room for `n` chunks, which gives any reasons when it fails.  Then there is in the
output what is written for the first `n` blocks that have a form, with the header in front of the
first; packets have none.  A block without a form is refused as too long.  A block with one is
accepted as long as there are fewer than `n` before it; from then on it is refused for the reason of
the first that was, and closing fails for that reason too.  Which blocks have a form depends on the
number of their writes, and a block without one leaves everything as it was. -/
theorem steps_failing (format : Format) (n : Nat) (reason : DeviceError)
    (ss : List (Block × DeviceError)) :
    let run := (start format n reason).steps ss
    let written := ((format.encodable ss).take n).map fun s => format.bytes s.1
    (run.output.contents = printed format written ∧
      (format = .packets → run.output.contents = written.flatten)) ∧
    (∀ before b cause after, ss = before ++ (b, cause) :: after →
      (format.encodes b = false → run.replies[before.length]?
        = some (some (.tooManyWrites ⟨b.name, b.writes.length⟩))) ∧
      (format.encodes b = true → (format.encodable before).length < n →
        run.replies[before.length]? = some none) ∧
      (format.encodes b = true → n ≤ (format.encodable before).length →
        ∃ first, (format.encodable ss)[n]? = some first ∧
          run.replies[before.length]? = some (some (.device first.2)))) ∧
    run.generator.close = ((format.encodable ss)[n]?).map (fun first => .device first.2) ∧
    (∀ b, format.body b = if format.encodes b then .ok (format.bytes b)
      else .error ⟨b.name, b.writes.length⟩) ∧
    ∀ (g : Generator) (out : Output) (b : Block), g.format = format → format.encodes b = false →
      g.emit out b = (g, out, some (.tooManyWrites ⟨b.name, b.writes.length⟩)) := by
  intro run written
  have hrun : Reached format n ss run := reached_steps format n reason ss
  refine ⟨⟨hrun.contents, ?_⟩, ?_, ?_, format.body_eq, ?_⟩
  · rintro rfl
    rw [hrun.contents, printed_packets_eq_flatten]
  · rintro before b cause after rfl
    have hbefore := reached_steps format n reason before
    refine ⟨fun hb => ?_, fun hb hroom => ?_, fun hb hnone => ?_⟩
    · exact getElem?_replies (hbefore.step_of_not_encodes hb).2
    · exact getElem?_replies (hbefore.step_of_room hb hroom).2
    · have hsplit : format.encodable (before ++ (b, cause) :: after)
          = format.encodable before ++ (b, cause) :: format.encodable after := by
        simp [Format.encodable, hb]
      rw [hsplit]
      rcases hnone.eq_or_lt with hfull | hfailed
      · refine ⟨(b, cause), by simp [hfull], ?_⟩
        exact getElem?_replies (hbefore.step_of_full hb hfull.symm).2
      · have hfirst := List.getElem?_eq_getElem hfailed
        refine ⟨_, (List.getElem?_append_left hfailed).trans hfirst, ?_⟩
        exact getElem?_replies (hbefore.step_of_failed hb hfirst).2
  · rw [Generator.close, hrun.failure, Option.map_map]
    rfl
  · rintro g out b rfl hb
    exact Generator.emit_of_not_encodes hb out

/-- A block with one write more than a tag can count. -/
def overlong : Block where
  name := "overlong"
  writes := List.replicate (Tag.maxLoops + 1) (.fog 0)

lemma length_writes_overlong : overlong.writes.length = 0x8000 := List.length_replicate

/-- That block among three that are not too long, and a device with a new reason each time. -/
def crowded : List (Block × DeviceError) :=
  [({ name := "first", writes := [.fog 1] }, .broken "cable"),
    (overlong, .broken "dust"),
    ({ name := "second", writes := [.fog 2] }, .broken "full"),
    ({ name := "third", writes := [.fog 3] }, .broken "fire")]

/-- With room for one chunk, the second block that is not too long finds the device full, and for
the third it is still full, although the device would have something else to say. -/
theorem steps_failing_crowded :
    let run := (start .packets 1 (.broken "none")).steps crowded
    run.output.contents = Format.packets.bytes { name := "first", writes := [.fog 1] } ∧
      run.replies[1]? = some (some (.tooManyWrites ⟨"overlong", 0x8000⟩)) ∧
      run.replies[2]? = some (some (.device (.broken "full"))) ∧
      run.replies[3]? = some (some (.device (.broken "full"))) ∧
      run.generator.close = some (.device (.broken "full")) := by
  have hencodable : Format.packets.encodable crowded = [crowded[0], crowded[2], crowded[3]] := by
    simp [Format.encodable, crowded, Format.encodes, length_writes_overlong, Tag.maxLoops]
  have hcount : ∀ rest, 1 ≤ (Format.packets.encodable (crowded[0] :: rest)).length := by
    intro rest
    simp [Format.encodable, crowded, Format.encodes, Tag.maxLoops]
  obtain ⟨⟨-, hcontents⟩, hreplies, hclose, -, -⟩ :=
    steps_failing .packets 1 (.broken "none") crowded
  rw [hencodable] at hcontents hclose hreplies
  obtain ⟨hoverlong, -, -⟩ := hreplies [crowded[0]] _ _ _ rfl
  obtain ⟨-, -, hsecond⟩ := hreplies [crowded[0], crowded[1]] _ _ _ rfl
  obtain ⟨-, -, hthird⟩ := hreplies [crowded[0], crowded[1], crowded[2]] _ _ _ rfl
  refine ⟨(hcontents rfl).trans (by simp [crowded]), ?_, ?_, ?_, hclose⟩
  · rw [length_writes_overlong] at hoverlong
    exact hoverlong (by simp [Format.encodes, length_writes_overlong, Tag.maxLoops])
  · obtain ⟨first, hfirst, hreply⟩ := hsecond rfl (hcount _)
    cases hfirst
    exact hreply
  · obtain ⟨first, hfirst, hreply⟩ := hthird rfl (hcount _)
    cases hfirst
    exact hreply

end EmitRun

end RegisterScript
