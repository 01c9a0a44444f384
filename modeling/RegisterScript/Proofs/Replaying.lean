import RegisterScript.Proofs.Grammar
import RegisterScript.Proofs.Printing

/-!
# Printing a block and replaying it

There are two ways to hand the writes of a block to a sink.  `replay` turns them into events
directly; a printed block is text, which is scanned and read like any script.  The two have no code
in common, but no sink can tell them apart: it gets the same events in the same order.

**Items.**  A sink goes by events; what an item has to say about blame matters only to the wording
of a refusal (`feedItems_congr`).  So it is enough to compare the events of two traces, given that
neither holds remarks (`Source.items_trace_of_fault`, `items_replay`).

**Where the setting goes.**  `Block.restored` puts the tag's setting back at its index, the index
moved to the nearer end if it lies outside the list.
-/

namespace RegisterScript

/-! ## Items -/

/-- **A sink goes by events alone**, whether it accepts them or not. -/
lemma feedItems_congr {σ : Type} (sink : Sink σ) (x : σ) {items items' : List TraceItem}
    {es : List Event} (h : items.map TraceItem.event? = es.map some)
    (h' : items'.map TraceItem.event? = es.map some) :
    (feedItems sink x items).1 = (feedItems sink x items').1 ∧
      ((feedItems sink x items).2 = none ↔ (feedItems sink x items').2 = none) := by
  induction es generalizing x items items' with
  | nil =>
      rw [List.map_nil, List.map_eq_nil_iff] at h h'
      rw [h, h']
      exact ⟨rfl, Iff.rfl⟩
  | cons e es ih =>
      obtain ⟨item, items, rfl, hitem, hitems⟩ := List.map_eq_cons_iff.mp h
      obtain ⟨item', items', rfl, hitem', hitems'⟩ := List.map_eq_cons_iff.mp h'
      obtain ⟨blame, rfl⟩ : ∃ blame, item = .event blame e := by
        cases item <;> simp_all [TraceItem.event?]
      obtain ⟨blame', rfl⟩ : ∃ blame, item' = .event blame e := by
        cases item' <;> simp_all [TraceItem.event?]
      rcases haccept : sink.accept x e with ⟨x₁, _ | f⟩
      · rw [feedItems_event haccept, feedItems_event haccept]
        exact ih x₁ hitems hitems'
      · rw [feedItems_event_refused haccept, feedItems_event_refused haccept]
        simp

/-- A trace without a fault of its own is fed as its items are. -/
lemma Trace.feed_of_fault {t : Trace} (h : t.fault = none) {σ : Type} (sink : Sink σ) (x : σ) :
    t.feed sink x = feedItems sink x t.items := by
  rw [Trace.feed, h]
  rcases feedItems sink x t.items with ⟨y, _ | f⟩ <;> rfl

/-- A script that is read without a fault leaves no remarks. -/
lemma Source.items_trace_of_fault {s : Source} (h : s.trace.fault = none) :
    s.trace.items.map TraceItem.event? = s.trace.events.map some := by
  obtain ⟨tokens, p, -, -, hitems⟩ := exists_derivation h
  rw [Trace.events, TraceItem.events_of_map hitems, hitems]

lemma items_replay (name : String) (ws : List Write) :
    (replay name none ws).map TraceItem.event?
      = (.startBlock name :: (ws.flatMap Write.events ++ [.close])).map some := by
  have hwrites : ∀ n, (ws.zipIdx n).flatMap
      (fun x => x.1.events.map (TraceItem.event? ∘ .event (.write name x.2)))
        = (ws.flatMap Write.events).map some := by
    induction ws with
    | nil => simp
    | cons w ws ih =>
        intro n
        rw [List.zipIdx_cons, List.flatMap_cons, List.flatMap_cons, List.map_append, ih]
        rfl
  simp [replay, List.map_flatMap, TraceItem.event?, hwrites]

/-! ## Where the setting goes -/

namespace Block

/-- Where the tag's setting goes: at its index, or at the nearer end. -/
def place (b : Block) : Nat := (min (max b.primIndex 0) b.writes.length).toNat

/-- The writes with the tag's setting put back. -/
def restored (b : Block) : List Write :=
  match b.tagPrim with
  | none => b.writes
  | some p => b.writes.take b.place ++ .prim p :: b.writes.drop b.place

lemma restored_eq_unpackedWrites (b : Block) : b.restored = b.unpackedWrites := by
  have hplace : b.place = min b.primIndex.toNat b.writes.length := by
    rw [place]
    omega
  rw [restored, unpackedWrites]
  cases b.tagPrim with
  | none => rfl
  | some p =>
      rcases Nat.le_total b.primIndex.toNat b.writes.length with hinside | hbehind
      · simp only [hplace, Nat.min_eq_left hinside]
      · simp only [hplace, Nat.min_eq_right hbehind, List.take_of_length_le hbehind,
          List.drop_eq_nil_of_le hbehind, List.take_length, List.drop_length]

lemma named_of_mem_restored {b : Block} (hprim : ∀ p ∈ b.tagPrim, (Write.prim p).Named)
    (hwrites : ∀ w ∈ b.writes, w.Named) : ∀ w ∈ b.restored, w.Named := by
  rw [restored]
  cases htag : b.tagPrim with
  | none => exact hwrites
  | some p =>
      intro w hw
      rcases List.mem_append.mp hw with hw | hw
      · exact hwrites w (List.mem_of_mem_take hw)
      · rcases List.mem_cons.mp hw with rfl | hw
        · exact hprim p htag
        · exact hwrites w (List.mem_of_mem_drop hw)

end Block

/-! ## Both ways -/

/-- A block that is printed, with or without the header of a file in front of it, is read to the
events that rebuild it. -/
lemma delivers_chunk {b : Block} (hname : IsName b.name) (hws : ∀ w ∈ b.unpackedWrites, w.Named)
    (started : Bool) :
    Delivers .top
      (Utf8.decode (({ format := .script, started := started } : Generator).chunk (scriptBytes b)))
      b.events := by
  have hb : ∀ b' ∈ [b], IsName b'.name ∧ ∀ w ∈ b'.unpackedWrites, w.Named := by
    simpa using ⟨hname, hws⟩
  have hblock : Delivers .top (ScriptText.render b).toList b.events := by
    simpa using delivers_blocks hb
  cases started with
  | true =>
      rw [Generator.chunk, if_pos rfl, scriptBytes, Utf8.decode_encode]
      exact hblock
  | false =>
      obtain ⟨line, hline, hheader⟩ := toList_header
      have htext := decode_printed (List.cons_ne_nil b [])
      simp only [List.map_cons, List.map_nil, printed, List.flatten_cons, List.flatten_nil,
        List.append_nil, List.flatMap_cons, List.flatMap_nil, hheader] at htext
      simp only [Generator.chunk, Bool.false_eq_true, if_false, htext]
      exact hblock.comment hline

/-- **Nobody can tell a printed block from a replayed one.**  A block is printed, be it the first of
a file or a later one.  Scanning and reading the text gives the events that replaying the block
gives, the setting of its tag among the writes, and nothing else; so any sink ends up in the same
state and accepts the one exactly if it accepts the other. -/
theorem feed_printed_replayed (b : Block) (hname : IsName b.name)
    (hprim : ∀ p ∈ b.tagPrim, p.topology.code ≤ Topology.sprite.code)
    (hwrites : ∀ w ∈ b.writes, w.Named) (started : Bool) (file : String) :
    let printed := ({ format := .script, started := started } : Generator).emit {} b
    let script := (Source.ofBytes file printed.2.1.contents .complete).trace
    let replayed : Trace := { items := replay b.name none b.restored }
    printed.2.2 = none ∧ script.fault = none ∧
      script.items.map TraceItem.event? = replayed.items.map TraceItem.event? ∧
      ∀ (σ : Type) (sink : Sink σ) (x : σ),
        (script.feed sink x).1 = (replayed.feed sink x).1 ∧
          ((script.feed sink x).2 = none ↔ (replayed.feed sink x).2 = none) := by
  intro printed script replayed
  have hbody : Format.script.body b = .ok (scriptBytes b) := rfl
  have hemit : ({ format := .script, started := started } : Generator).emit {} b = _ :=
    Generator.emit_of_body hbody rfl rfl
  have hcontents : printed.2.1.contents
      = ({ format := .script, started := started } : Generator).chunk (scriptBytes b) := by
    simp [printed, hemit, Output.contents]
  have hws : ∀ w ∈ b.unpackedWrites, w.Named :=
    b.restored_eq_unpackedWrites ▸ Block.named_of_mem_restored hprim hwrites
  obtain ⟨hfault, hevents⟩ : script.fault = none ∧ script.events = b.events := by
    refine Delivers.trace ?_ rfl
    rw [Source.ofBytes, hcontents]
    exact delivers_chunk hname hws started
  have hscript : script.items.map TraceItem.event? = b.events.map some := by
    rw [← hevents]
    exact Source.items_trace_of_fault hfault
  have hreplayed : replayed.items.map TraceItem.event? = b.events.map some := by
    rw [Block.events, ← b.restored_eq_unpackedWrites]
    exact items_replay b.name b.restored
  refine ⟨by simp [printed, hemit], hfault, hscript.trans hreplayed.symm, fun σ sink x => ?_⟩
  rw [Trace.feed_of_fault hfault, Trace.feed_of_fault (t := replayed) rfl]
  exact feedItems_congr sink x hscript hreplayed

/-- A block with a texture that uses its own alpha, cells that fit no field, and a setting whose
index lies behind the last write. -/
def Block.outside : Block where
  name := "größe_1"
  tagPrim := some { topology := .sprite, fogging := true }
  primIndex := 9
  writes :=
    [.tex0 { base := 0xFFFFFFFF, bufferWidth := 0x40, pixelFormat := .ct16, widthLog := 16
             heightLog := 0, useAlpha := true, function := .highlight2 },
      .fog 0x80]

/-- Printed as the first block of a file and read, it gives these events to a recorder. -/
theorem feed_printed_replayed_outside :
    IsName Block.outside.name ∧
      (∀ p ∈ Block.outside.tagPrim, p.topology.code ≤ Topology.sprite.code) ∧
      (∀ w ∈ Block.outside.writes, w.Named) ∧
      let printed := ({ format := .script } : Generator).emit {} Block.outside
      let script := (Source.ofBytes "outside" printed.2.1.contents .complete).trace
      script.fault = none ∧
        (script.feed (Recorder.sink none .canceled) {}).1.events.reverse =
          [.startBlock "größe_1", .select 0x06, .push (.scalar 0xFFFFFFFF), .push (.scalar 0x40),
            .push (.vec2 ⟨16, 0⟩), .modify (.ofPixelFormat .ct16),
            .modify (.ofTextureFunction .highlight2), .select 0x0A, .push (.scalar 0x80),
            .select 0x00, .modify (.ofTopology .sprite), .modify .fogging, .close] := by
  have hname : IsName Block.outside.name := by decide +kernel
  have hprim : ∀ p ∈ Block.outside.tagPrim, p.topology.code ≤ Topology.sprite.code := by decide
  have hwrites : ∀ w ∈ Block.outside.writes, w.Named := by
    simp [Block.outside, Write.Named]
  obtain ⟨-, hfault, -, hsinks⟩ :=
    feed_printed_replayed Block.outside hname hprim hwrites false "outside"
  refine ⟨hname, hprim, hwrites, hfault, ?_⟩
  rw [(hsinks Recorder (Recorder.sink none .canceled) {}).1]
  decide

end RegisterScript
