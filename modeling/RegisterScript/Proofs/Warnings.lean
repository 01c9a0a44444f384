import RegisterScript.Log.Logger
import RegisterScript.Proofs.BinaryRoundTrip

/-!
# Nothing is cut off in silence

A value that is too large for its field is cut off when it is packed.  The machine checks every
write of a block for this, but it does so when the block is closed, before the clean-up, and what is
packed later is what the clean-up leaves.  No write can get past the check that way.

**Notes of a run.**  `exists_closing` finds, for every block that a run writes, the place in its
notes where the block was closed, together with the writes that were checked there.

**The log.**  `Logger.renderNote_outOfRange` is the line of a warning, and `Logger.render_of_mem`
finds it in what is logged.

**Packets.**  `warned_of_mem`: a write that is read back as another has been warned about.
-/

namespace RegisterScript

/-! ## Notes of a run -/

/-- What is reported about the writes of a block that has been closed. -/
def closingNotes (passes : Passes) (name : String) (ws : List Write) : List Note :=
  Machine.rangeWarnings name ws
    ++ (Block.optimize passes { name := name, writes := ws }).2.map
      fun r => { scope := [name], remark := r }

/-- What is reported when a block is written. -/
def writingNotes (b : Block) : List Note :=
  [{ remark := .emitting b.name }, { remark := .listing b }]

section Notes

variable {τ : Type} {passes : Passes} {emitter : Emitter τ}

namespace Assembly

lemma notes_accept (passes : Passes) (emitter : Emitter τ) (a : Assembly τ) (e : Event) :
    a.notes <:+ (a.accept passes emitter e).1.notes := by
  rw [accept]
  split
  · exact List.suffix_append _ _
  · exact (List.suffix_append _ _).trans (List.suffix_append _ _)
  · exact List.suffix_append _ _

/-- A machine that hands a block over has reported its closing, and the emitter reports next. -/
lemma notes_accept_of_handed {a : Assembly τ} {e : Event} {m : Machine} {b : Block}
    (h : a.machine.advance passes e = some (m, some b)) (emitter : Emitter τ) :
    ∃ ws, b = ({ name := b.name, writes := ws } : Block).optimized passes ∧
      (a.accept passes emitter e).1.notes.reverse = a.notes.reverse
        ++ { remark := .closed .block b.name } :: (closingNotes passes b.name ws
          ++ (emitter.emit a.target b).2.1.map fun r => { remark := r }) := by
  cases Machine.advance_eq_some_iff.mp h with
  | @closedBlock i c ws hcur hne hready hws =>
      refine ⟨ws, by rw [Block.optimized_name], ?_⟩
      have hdrafts : c.drafts.isEmpty = false := by simpa using hne
      rw [Block.optimized_name]
      simp [accept, Machine.step, Machine.close, hcur, hdrafts, hready, hws, handOver, remark,
        closingNotes, Block.optimized]

end Assembly

lemma notes_feedItems (passes : Passes) (emitter : Emitter τ) (a : Assembly τ)
    (items : List TraceItem) :
    a.notes <:+ (feedItems (Assembly.sink passes emitter) a items).1.notes := by
  induction items generalizing a with
  | nil => exact List.suffix_refl _
  | cons item items ih =>
      cases item with
      | remark r => exact (List.suffix_append _ _).trans (ih (a.remark [r]))
      | event blame e =>
          have haccept := a.notes_accept passes emitter e
          cases hacc : a.accept passes emitter e with
          | mk a₁ fault =>
              rw [hacc] at haccept
              cases fault with
              | some f =>
                  rw [feedItems_of_stopped hacc]
                  exact haccept
              | none =>
                  rw [feedItems_of_accepted hacc]
                  exact haccept.trans (ih a₁)

/-- **Every block that a feeding hands over** was handed over at some point of it. -/
lemma exists_handed {a a' : Assembly τ} {items : List TraceItem} {m : Machine} {bs : List Block}
    (h : feedItems (Assembly.sink passes emitter) a items = (a', none))
    (hrun : a.machine.run passes (TraceItem.events items) = some (m, bs)) {b : Block}
    (hb : b ∈ bs) :
    ∃ (a₁ : Assembly τ) (e : Event) (m₁ : Machine) (after : List TraceItem),
      a₁.machine.advance passes e = some (m₁, some b) ∧
      feedItems (Assembly.sink passes emitter) (a₁.accept passes emitter e).1 after
        = (a', none) := by
  induction items generalizing a bs with
  | nil =>
      obtain ⟨-, rfl⟩ : a.machine = m ∧ [] = bs := by simpa using hrun
      simp at hb
  | cons item items ih =>
      cases item with
      | remark r => exact ih (a := a.remark [r]) h hrun hb
      | event blame e =>
          rw [TraceItem.events_cons_event] at hrun
          obtain ⟨m₁, handed, bs', hadv, hrest, rfl⟩ := Machine.run_cons_eq_some hrun
          cases hacc : a.accept passes emitter e with
          | mk a₁ fault =>
              cases fault with
              | some f => simp [feedItems_of_stopped hacc] at h
              | none =>
                  rw [feedItems_of_accepted hacc] at h
                  rcases List.mem_append.mp hb with hb | hb
                  · obtain rfl : handed = some b := Option.mem_toList.mp hb
                    exact ⟨a, e, m₁, items, hadv, by rwa [hacc]⟩
                  · -- The rest of the run starts from the same machine as the rest of the feeding.
                    have hmachine : a₁.machine = m₁ := by
                      rw [← Machine.machine_of_advance hadv, ← a.machine_accept passes emitter,
                        hacc]
                    rw [← hmachine] at hrest
                    exact ih h hrest hb

end Notes

/-- **Where a block was closed.**  Every block that is written leaves one piece in the notes: its
closing, with the writes that were checked then, and the remarks about its writing. -/
lemma exists_closing {config : Config} {format : Format}
    (hformat : config.target.format config.mode = .ok format) {canceled : Bool} {name : String}
    {wrap : Fault → Fault} {t : Trace} {out : Output} {names : List String}
    (h : (writeTrace config canceled name wrap t out).1.result = .ok names) {m : Machine}
    {bs : List Block} (hrun : Machine.run config.passes {} t.events = some (m, bs))
    (hcanceled : canceled = true → bs = []) {b : Block} (hb : b ∈ bs) :
    ∃ ws earlier later, b = ({ name := b.name, writes := ws } : Block).optimized config.passes ∧
      (writeTrace config canceled name wrap t out).1.notes = earlier
        ++ { scope := [name], remark := .closed .block b.name }
          :: ((closingNotes config.passes b.name ws ++ writingNotes b).map (Note.within name)
            ++ later) := by
  -- There is a block, so the run has not been called off, and the emitter reports what it writes.
  obtain rfl : canceled = false := by
    cases canceled with
    | true => simp [hcanceled rfl] at hb
    | false => rfl
  simp only [writeTrace, hformat] at h ⊢
  cases hfeed : t.feed (Assembly.sink config.passes (Emitter.generate.cancelable false))
      { target := ({ format := format }, out) } with
  | mk a fault =>
      cases fault with
      | some f => simp [hfeed] at h
      | none =>
          obtain ⟨hitems, -⟩ := Trace.feed_eq_none.mp hfeed
          obtain ⟨a₁, e, m₁, after, hadv, hafter⟩ := exists_handed hitems hrun hb
          obtain ⟨ws, hblock, hnotes⟩ := Assembly.notes_accept_of_handed hadv
            (Emitter.generate.cancelable false)
          obtain ⟨new, hnew⟩ := notes_feedItems config.passes (Emitter.generate.cancelable false)
            (a₁.accept config.passes (Emitter.generate.cancelable false) e).1 after
          rw [hafter] at hnew
          refine ⟨ws, a₁.notes.reverse.map (Note.within name), new.reverse.map (Note.within name),
            hblock, ?_⟩
          rw [← hnew, ← List.map_reverse, List.reverse_append, hnotes]
          simp [Emitter.cancelable, Emitter.generate, writingNotes, Note.within]

/-! ## The log -/

/-- The line that warns of a write that is read back as another. -/
def warningLine (scope block : String) (written readBack : Write) : String :=
  "[WARN ] " ++ (if scope = "" then "" else scope ++ ": ")
    ++ ("block " ++ block ++ ": "
      ++ (written.describe ++ " encodes as " ++ readBack.describe
        ++ ": value does not fit its register field")) ++ "\n"

namespace Logger

variable {logger : Logger}

lemma append_newline_ne_empty (text : String) : text ++ "\n" ≠ "" := by
  intro h
  have hlist := congrArg String.toList h
  simp at hlist

lemma getLast?_append_text (text : String) {tail : String} {c : Char}
    (h : tail.toList.getLast? = some c) : (text ++ tail).toList.getLast? = some c := by
  rw [String.toList_append, List.getLast?_append, h]
  rfl

/-- A logger that shows warnings shows those about the writes of a block. -/
lemma renderNote_outOfRange (h : logger.threshold = .warn) (source block : String)
    (written readBack : Write) :
    logger.renderNote { scope := [source], remark := .outOfRange block (.changed written readBack) }
      = warningLine (logger.enter source).scope block written readBack := by
  have hshown : logger.enabled .warn = true := by
    rw [enabled, h]
    rfl
  have hinside : (logger.enter source).enabled .warn = true := hshown
  have hlast : (Remark.outOfRange block (.changed written readBack)).text.toList.getLast?
      = some 'd' := getLast?_append_text _ (getLast?_append_text _ (by decide))
  have hmark : "[" ++ Level.warn.mark ++ "] " = "[WARN ] " := rfl
  simp only [renderNote, Remark.level, hshown, if_true, List.foldl_cons, List.foldl_nil, line,
    hinside]
  rw [endLine, getLast?_append_text _ hlast, if_neg (by decide), hmark]
  rfl

/-- What is logged for a note is part of the log. -/
lemma render_of_mem (logger : Logger) {n : Note} {notes : List Note} (h : n ∈ notes) :
    ∃ before after, logger.render notes = before ++ logger.renderNote n ++ after := by
  obtain ⟨pre, post, rfl⟩ := List.append_of_mem h
  refine ⟨logger.render pre, logger.render post, ?_⟩
  simp [render, String.append_assoc]

end Logger

/-! ## Packets -/

/-- A write of a block is read back as another, and there was a warning: one among what was reported
between the closing of the block and its writing, and a line in the log that names both. -/
structure Outcome.Warned {α : Type} (o : Outcome α) (logger : Logger) (source block : String)
    (written readBack : Write) : Prop where
  closing : ∃ earlier between later,
    o.notes = earlier ++ { scope := [source], remark := .closed .block block }
      :: (between ++ { scope := [source], remark := .emitting block } :: later) ∧
    { scope := [source], remark := .outOfRange block (.changed written readBack) } ∈ between
  logged : ∃ before after, logger.render o.notes
    = before ++ warningLine (logger.enter source).scope block written readBack ++ after

/-- A write that is read back as another does not pass the range check. -/
lemma Write.checkRange_of_changed {w : Write} (hw : w.reduced.Decodable) (hne : w.reduced ≠ w) :
    w.checkRange = some (.changed w w.reduced) := by
  rw [checkRange, decode_encode hw]
  simp only [if_neg hne]

/-- **A closing warns** of every write that does not pass the range check. -/
lemma Outcome.warned_of_closing {α : Type} {o : Outcome α} {logger : Logger}
    (hlogger : logger.threshold = .warn) {passes : Passes} {source : String} {b : Block}
    {ws : List Write} {earlier later : List Note}
    (hnotes : o.notes = earlier ++ { scope := [source], remark := .closed .block b.name }
      :: ((closingNotes passes b.name ws ++ writingNotes b).map (Note.within source) ++ later))
    {w readBack : Write} (hw : w ∈ ws) (hchanged : w.checkRange = some (.changed w readBack)) :
    o.Warned logger source b.name w readBack := by
  have hwarning : { remark := .outOfRange b.name (.changed w readBack) }
      ∈ closingNotes passes b.name ws :=
    List.mem_append_left _ (List.mem_filterMap.mpr ⟨w, hw, by rw [hchanged]; rfl⟩)
  have hclosing : ∃ earlier between later,
      o.notes = earlier ++ { scope := [source], remark := .closed .block b.name }
        :: (between ++ { scope := [source], remark := .emitting b.name } :: later) ∧
      { scope := [source], remark := .outOfRange b.name (.changed w readBack) } ∈ between := by
    refine ⟨earlier, (closingNotes passes b.name ws).map (Note.within source),
      { scope := [source], remark := .listing b } :: later, ?_, List.mem_map_of_mem hwarning⟩
    rw [hnotes, writingNotes]
    simp [Note.within]
  refine ⟨hclosing, ?_⟩
  obtain ⟨earlier, between, later, hsplit, hmem⟩ := hclosing
  rw [← Logger.renderNote_outOfRange hlogger]
  exact logger.render_of_mem (by simp [hsplit, hmem])

/-- A warning has a line in the log. -/
lemma Outcome.Warned.exists_line {α : Type} {o : Outcome α} {logger : Logger}
    (hlogger : logger.threshold = .warn) {source block : String} {w readBack : Write}
    (h : o.Warned logger source block w readBack) :
    ∃ n ∈ o.notes, n.remark.level = .warn ∧ logger.renderNote n ≠ "" := by
  obtain ⟨earlier, between, later, hnotes, hmem⟩ := h.closing
  refine ⟨{ scope := [source], remark := .outOfRange block (.changed w readBack) },
    by rw [hnotes]; simp [hmem], rfl, ?_⟩
  rw [Logger.renderNote_outOfRange hlogger]
  exact Logger.append_newline_ne_empty _

lemma Block.prim_mem_executed {b : Block} {p : Prim} (hp : p ∈ b.tagPrim) :
    .prim p ∈ b.executed :=
  List.mem_append_left _ (List.mem_map_of_mem (Option.mem_toList.mpr hp))

/-- A block that loses nothing when it is packed is in range. -/
lemma Block.Packable.inRange {b : Block} (hb : b.Packable)
    (h : ∀ w ∈ b.executed, w.reduced = w) : b.InRange where
  tagPrim p hp := by
    have hsame := h (.prim p) (Block.prim_mem_executed hp)
    exact Write.checkRange_eq_none_iff.mpr ⟨hsame, hsame ▸ hb.tagPrim p hp⟩
  writes w hw := by
    have hsame := h w (List.mem_append_right _ hw)
    exact Write.checkRange_eq_none_iff.mpr ⟨hsame, hsame ▸ hb.writes w hw⟩

lemma forall₂_packetsFrom {R : Block → Packet → Prop} {bs : List Block}
    (h : ∀ b ∈ bs, ∀ offset, R b (b.packet offset)) (offset : Nat) :
    List.Forall₂ R bs (packetsFrom offset bs) := by
  induction bs generalizing offset with
  | nil => exact .nil
  | cons b bs ih =>
      exact .cons (h b (by simp) offset) (ih (fun b' hb' => h b' (by simp [hb'])) _)

section Packets

variable {passes : Passes} {canceled : Bool} {mode : EmitMode} {s : Source}
  {budget : Option (Nat × DeviceError)} {names : List String}

/-- What is known of a script that has been written as packets. -/
lemma packets_of_compileTo
    (h : (compileTo { target := .packets, mode := mode, passes := passes } canceled s
      { budget := budget }).1.result = .ok names) :
    s.trace.fault = none ∧ ∃ m bs, Machine.run passes {} s.trace.events = some (m, bs) ∧
      (canceled = true → bs = []) ∧ bs.map Block.name = names ∧
      (∀ b ∈ bs, b.writes.length ≤ Tag.maxLoops) ∧
      (compileTo { target := .packets, mode := mode, passes := passes } canceled s
        { budget := budget }).2.contents = wordsToBytes (bs.flatMap Block.packetWords) := by
  obtain ⟨hfault, m, bs, g, hrun, hcanceled, hall, hnames⟩ :=
    (writeTrace_eq_ok_iff rfl).mp ⟨h, rfl⟩
  have hcounted : ∀ b ∈ bs, b.writes.length ≤ Tag.maxLoops := by
    intro b hb
    obtain ⟨body, hbody⟩ := Emitter.body_of_emitAll hall b hb
    exact Block.length_le_of_body hbody
  refine ⟨hfault, m, bs, hrun, hcanceled, hnames, hcounted, ?_⟩
  obtain ⟨g', out, hroom, -, hcontents⟩ :=
    Emitter.emitAll_generate .packets fun b hb => body_packets (hcounted b hb)
  rw [Emitter.emitAll_unlimited hall, Option.some.injEq, Prod.mk.injEq] at hroom
  rw [← printed_packets, ← hcontents, ← hroom.2]
  rfl

/-- **A write that is read back as another** has been warned about. -/
lemma warned_of_mem {logger : Logger} (hlogger : logger.threshold = .warn)
    (h : (compileTo { target := .packets, mode := mode, passes := passes } canceled s
      { budget := budget }).1.result = .ok names) {m : Machine} {bs : List Block}
    (hrun : Machine.run passes {} s.trace.events = some (m, bs))
    (hcanceled : canceled = true → bs = []) {b : Block} (hb : b ∈ bs) {w : Write}
    (hw : w ∈ b.executed) (hne : w.reduced ≠ w) :
    (compileTo { target := .packets, mode := mode, passes := passes } canceled s
      { budget := budget }).1.Warned logger s.name b.name w w.reduced := by
  obtain ⟨ws, earlier, later, hblock, hnotes⟩ := exists_closing rfl h hrun hcanceled hb
  have hunpacked : w ∈ b.unpackedWrites := b.executed_perm.mem_iff.mp hw
  have hscriptable := (rebuilt_of_run hrun hb).2.1 w hunpacked
  -- The clean-up only drops writes, so what is packed was there when the block was closed.
  have hchecked : w ∈ ws := by
    rw [hblock, Block.unpackedWrites_optimized passes rfl] at hunpacked
    exact (passes.clean_sublist ws).subset hunpacked
  exact Outcome.warned_of_closing hlogger hnotes hchecked
    (Write.checkRange_of_changed (Write.decodable_of_named hscriptable.reduced.1) hne)

end Packets

/-- **Nothing is cut off in silence.**  A script that has been compiled to packets can be read back,
with one packet for each block.  If no warning was logged, the packets hold exactly the settings and
writes of the blocks.  And every setting in a tag and every write is read back as it was, or there
was a warning that names it and its block when that was closed. -/
theorem compileTo_warned (passes : Passes) (canceled : Bool) (mode : EmitMode) (s : Source)
    (budget : Option (Nat × DeviceError)) (logger : Logger) (hlogger : logger.threshold = .warn)
    (names : List String)
    (h : (compileTo { target := .packets, mode := mode, passes := passes } canceled s
      { budget := budget }).1.result = .ok names) :
    let run := compileTo { target := .packets, mode := mode, passes := passes } canceled s
      { budget := budget }
    ∃ bs packets, (compile passes canceled s).result = .ok bs ∧ bs.map Block.name = names ∧
      readStream run.2.contents = .ok packets ∧
      ((∀ n ∈ run.1.notes, n.remark.level = .warn → logger.renderNote n = "") →
        packets.map (fun p => (p.prim, p.writes)) = bs.map fun b => (b.tagPrim, b.writes)) ∧
      List.Forall₂ (fun b p =>
        Option.Rel (fun q q' => q' ≠ q → run.1.Warned logger s.name b.name (.prim q) (.prim q'))
          b.tagPrim p.prim ∧
        List.Forall₂ (fun w w' => w' ≠ w → run.1.Warned logger s.name b.name w w')
          b.writes p.writes) bs packets := by
  intro run
  obtain ⟨hfault, m, bs, hrun, hcanceled, hnames, hcounted, hcontents⟩ := packets_of_compileTo h
  have hpackable : ∀ b ∈ bs, b.Packable := fun b hb =>
    (packable_of_run hrun hb (hcounted b hb)).1
  have hwarned : ∀ b ∈ bs, ∀ w ∈ b.executed, w.reduced ≠ w →
      run.1.Warned logger s.name b.name w w.reduced := fun b hb w hw =>
    warned_of_mem hlogger h hrun hcanceled hb hw
  refine ⟨bs, packetsFrom 0 bs, compile_eq_ok_iff.mpr ⟨hfault, ⟨m, hrun⟩, hcanceled⟩, hnames, ?_,
    ?_, ?_⟩
  · rw [hcontents]
    exact readStream_packetWords hpackable
  · intro hsilent
    refine map_packetsFrom (fun b hb offset => ?_) 0
    have hsame : ∀ w ∈ b.executed, w.reduced = w := by
      intro w hw
      by_contra hne
      obtain ⟨n, hn, hlevel, hline⟩ := (hwarned b hb w hw hne).exists_line hlogger
      exact hline (hsilent n hn hlevel)
    rw [Block.packet_of_inRange ((hpackable b hb).inRange hsame)]
  · refine forall₂_packetsFrom (fun b hb offset => ⟨?_, ?_⟩) 0
    · cases hq : b.tagPrim with
      | none =>
          rw [Block.packet, hq]
          exact .none
      | some q =>
          rw [Block.packet, hq]
          refine .some fun hne => ?_
          exact hwarned b hb (.prim q) (Block.prim_mem_executed hq) fun hsame =>
            hne (Write.prim.inj hsame)
    · rw [Block.packet, List.forall₂_map_right_iff, List.forall₂_same]
      exact fun w hw hne => hwarned b hb w (List.mem_append_right _ hw) hne

/-- A coordinate that is too large for its field comes back smaller, with a warning. -/
theorem compileTo_warned_separated :
    let run := compileTo { target := .packets, passes := .all } false .separated {}
    run.1.result = .ok ["separated"] ∧
      (∃ packets, readStream run.2.contents = .ok packets ∧
        packets.map Packet.writes = [[.fog 1, .fog 2, .xyz2 ⟨1, 2, 3⟩]]) ∧
      run.1.Warned { threshold := .warn } "separated" "separated" (.xyz2 ⟨0x1001, 2, 3⟩)
        (.xyz2 ⟨1, 2, 3⟩) := by
  intro run
  have hcompile : (compile .all false .separated).result = .ok [Source.separatedBlock] :=
    compile_of_evaluated (by decide +kernel) (by decide +kernel)
  obtain ⟨hfault, ⟨m, hrun⟩, hcanceled⟩ := compile_eq_ok_iff.mp hcompile
  obtain ⟨h, hcontents⟩ : run.1.result = .ok ["separated"] ∧
      run.2.contents = wordsToBytes ([Source.separatedBlock].flatMap Block.packetWords) :=
    writeTrace_packets .defs "separated" id hfault hrun hcanceled (by decide)
  have hread : readStream run.2.contents = .ok (packetsFrom 0 [Source.separatedBlock]) := by
    rw [hcontents]
    refine readStream_packetWords fun b hb => (packable_of_run hrun hb ?_).1
    rw [List.mem_singleton.mp hb]
    decide
  refine ⟨h, ⟨_, hread, by decide⟩, ?_⟩
  obtain ⟨bs, packets, hbs, -, hpackets, -, hwarned⟩ :=
    compileTo_warned .all false .defs .separated none { threshold := .warn } rfl _ h
  obtain rfl := Except.ok.inj (hcompile.symm.trans hbs)
  obtain rfl := Except.ok.inj (hread.symm.trans hpackets)
  rcases hwarned with _ | ⟨⟨-, hwrites⟩, -⟩
  rcases hwrites with _ | ⟨-, _ | ⟨-, _ | ⟨hlast, -⟩⟩⟩
  exact hlast (by decide)

end RegisterScript
