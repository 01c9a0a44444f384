import RegisterScript.Proofs.Grammar
import RegisterScript.Proofs.PacketStream
import RegisterScript.Proofs.Telling

/-!
# What a refusal cuts off

A sink that refuses an event ends the telling, and nothing else changes: it has been told what any
other sink is told, up to and including that event.  In particular it is never told to close what
it has refused to fill.

The statement is about those who tell a sink event by event, `Source.tell`, `tellBlock` and
`tellStream`.  Each of them acts on every reply at the place where it told the event; that all of
these places do it right is what `Source.tell_eq_feed` and its likes say.  What is left is one loop
over a trace.

**What passes between the two.**  A `Teller` knows nothing of its sink but the replies.  So a second
sink around the first (`Sink.watched`) can take down all events and replies, and changes nothing
(`feedItems_watched`).

**Two runs.**  `Sink.FailsAt` says that a sink refuses one event by its number, whatever the events
are.  `Teller.CutAt` compares what comes of such a sink and of one that accepts everything.  A
feeding that meets the refusal stops there, and one that does not goes on as if there were none
(`feedItems_watched_of_failsAt`).

**Whose fault.**  What a trace reports for a refusal depends on the blame of the event.  A script
blames a place for each of its events (`Source.placed_trace`); `Fault.chain` finds the sink's fault
under any other wrapping.
-/

namespace RegisterScript

/-! ## Chains of causes -/

/-- A fault and all that lies under it, from the outside in. -/
def Fault.chain : Fault → List Fault
  | f@(located _ cause) | f@(emitting _ cause) | f@(inTagPrim _ cause) | f@(inWrite _ _ cause)
  | f@(inFile _ cause) | f@(creatingOutput cause) | f@(openingInput cause) => f :: cause.chain
  | f@(both first second) => f :: (first.chain ++ second.chain)
  | f => [f]

lemma Fault.mem_chain_self (f : Fault) : f ∈ f.chain := by
  cases f <;> simp [chain]

/-- Whatever the blame, the cause is still there. -/
lemma Blame.mem_chain_wrap (blame : Blame) (f : Fault) : f ∈ (blame.wrap f).chain := by
  cases blame <;> simp [wrap, Fault.chain, f.mem_chain_self]

/-! ## What passes between a teller and a sink -/

/-- Whoever tells events to a sink, whatever sink it is. -/
abbrev Teller := (σ : Type) → Sink σ → σ → σ × Option Fault

section Exchange

variable {σ : Type} (sink : Sink σ)

/-- The sink together with a list of the events that it has been told, each with the reply. -/
def Sink.watched : Sink (σ × List (Event × Option Fault)) where
  accept x e :=
    (((sink.accept x.1 e).1, x.2 ++ [(e, (sink.accept x.1 e).2)]), (sink.accept x.1 e).2)
  report x r := (sink.report x.1 r, x.2)

namespace Teller

variable (tell : Teller)

/-- All events that reach a sink, each with the reply to it. -/
def exchange (x : σ) : List (Event × Option Fault) := (tell _ sink.watched (x, [])).1.2

/-- The events that reach a sink; the last of them may have been refused. -/
def delivered (x : σ) : List Event := (tell.exchange sink x).map Prod.fst

/-- The replies of the sink. -/
def replies (x : σ) : List (Option Fault) := (tell.exchange sink x).map Prod.snd

end Teller

lemma Sink.watched_accept {x : σ} {e : Event} {reply : Option Fault}
    (h : (sink.accept x e).2 = reply) (seen : List (Event × Option Fault)) :
    sink.watched.accept (x, seen) e = (((sink.accept x e).1, seen ++ [(e, reply)]), reply) := by
  rw [← h]
  rfl

/-- **Nobody notices that a sink is watched.** -/
lemma feedItems_watched (x : σ) (seen : List (Event × Option Fault)) (items : List TraceItem) :
    (feedItems sink.watched (x, seen) items).1.1 = (feedItems sink x items).1 ∧
      (feedItems sink.watched (x, seen) items).2 = (feedItems sink x items).2 := by
  induction items generalizing x seen with
  | nil => exact ⟨rfl, rfl⟩
  | cons item items ih =>
      cases item with
      | remark r => exact ih (sink.report x r) seen
      | event blame e =>
          cases h : (sink.accept x e).2 with
          | none =>
              rw [feedItems_event (Prod.ext rfl h), feedItems_event (sink.watched_accept h seen)]
              exact ih _ _
          | some f =>
              rw [feedItems_event_refused (Prod.ext rfl h),
                feedItems_event_refused (sink.watched_accept h seen)]
              exact ⟨rfl, rfl⟩

/-- Feeding a trace is one way of telling. -/
def Trace.teller (t : Trace) : Teller := fun _ sink x => t.feed sink x

lemma Trace.exchange_teller (t : Trace) (x : σ) :
    t.teller.exchange sink x = (feedItems sink.watched (x, []) t.items).1.2 := by
  rw [Teller.exchange, teller, feed]
  rcases feedItems sink.watched (x, []) t.items with ⟨y, _ | f⟩ <;> rfl

lemma Trace.snd_feed (t : Trace) (x : σ) :
    (t.feed sink x).2 = (feedItems sink x t.items).2.or t.fault := by
  rw [feed]
  rcases feedItems sink x t.items with ⟨y, _ | f⟩ <;> rfl

end Exchange

/-! ## Two runs -/

section Failing

variable {σ : Type} {sink : Sink σ} {x : σ} {n : Nat}

/-- The state of a sink behind a history, whatever it made of the events. -/
def Sink.after (sink : Sink σ) (x : σ) : List TraceItem → σ
  | [] => x
  | .event _ e :: items => sink.after (sink.accept x e).1 items
  | .remark r :: items => sink.after (sink.report x r) items

/-- From the state `x` on, the sink accepts all events before the `n`-th, whatever they are, and
refuses the `n`-th. -/
def Sink.FailsAt (sink : Sink σ) (x : σ) (n : Nat) : Prop :=
  ∀ history e,
    ((TraceItem.events history).length + 1 < n →
      (sink.accept (sink.after x history) e).2 = none) ∧
    ((TraceItem.events history).length + 1 = n →
      (sink.accept (sink.after x history) e).2.isSome = true)

namespace Sink.FailsAt

lemma report (h : sink.FailsAt x n) (r : Remark) : sink.FailsAt (sink.report x r) n :=
  fun history e => h (.remark r :: history) e

lemma accept (h : sink.FailsAt x (n + 1)) (e : Event) : sink.FailsAt (sink.accept x e).1 n := by
  intro history e'
  obtain ⟨hbefore, hat⟩ := h (.event .bare e :: history) e'
  rw [TraceItem.events_cons_event, List.length_cons] at hbefore hat
  exact ⟨fun hlt => hbefore (by omega), fun heq => hat (by omega)⟩

lemma refuses_first (h : sink.FailsAt x 1) (e : Event) :
    ∃ fault, (sink.accept x e).2 = some fault :=
  Option.isSome_iff_exists.mp ((h [] e).2 rfl)

lemma accepts_first (h : sink.FailsAt x (n + 2)) (e : Event) : (sink.accept x e).2 = none :=
  (h [] e).1 (by simp)

end Sink.FailsAt

/-- **The refusal is met or not**, depending on the number of events alone.  What is exchanged up to
there is `told`. -/
lemma feedItems_watched_of_failsAt (h : sink.FailsAt x (n + 1))
    (seen : List (Event × Option Fault)) (items : List TraceItem) :
    ∃ told, (feedItems sink.watched (x, seen) items).1.2 = seen ++ told ∧
      told.map Prod.fst = (TraceItem.events items).take (n + 1) ∧
      (n < (TraceItem.events items).length →
        ∃ blame e fault, .event blame e ∈ items ∧
          told.map Prod.snd = List.replicate n none ++ [some fault] ∧
          (feedItems sink.watched (x, seen) items).2 = some (blame.wrap fault)) ∧
      ((TraceItem.events items).length ≤ n →
        (feedItems sink.watched (x, seen) items).2 = none) := by
  -- Each accepted event brings the refusal one closer; remarks leave it where it is.
  induction items generalizing x n seen with
  | nil => exact ⟨[], (List.append_nil _).symm, rfl, nofun, fun _ => rfl⟩
  | cons item items ih =>
      cases item with
      | remark r =>
          obtain ⟨told, hseen, hevents, hmet, hmissed⟩ := ih (h.report r) seen
          refine ⟨told, hseen, hevents, fun hlt => ?_, hmissed⟩
          obtain ⟨blame, e, fault, hmem, hreplies, hfault⟩ := hmet hlt
          exact ⟨blame, e, fault, List.mem_cons_of_mem _ hmem, hreplies, hfault⟩
      | event blame e =>
          cases n with
          | zero =>
              obtain ⟨fault, hfault⟩ := h.refuses_first e
              rw [feedItems_event_refused (sink.watched_accept hfault seen)]
              refine ⟨[(e, some fault)], rfl, by simp, fun _ => ?_, fun hlength => ?_⟩
              · exact ⟨blame, e, fault, List.mem_cons_self, rfl, rfl⟩
              · simp at hlength
          | succ n =>
              have haccepted := sink.watched_accept (h.accepts_first e) seen
              obtain ⟨told, hseen, hevents, hmet, hmissed⟩ := ih (h.accept e) (seen ++ [(e, none)])
              rw [feedItems_event haccepted, TraceItem.events_cons_event, List.length_cons]
              refine ⟨(e, none) :: told, ?_, ?_, fun hlt => ?_, fun hle => hmissed (by omega)⟩
              · rw [hseen, List.append_assoc, List.singleton_append]
              · rw [List.map_cons, hevents, List.take_succ_cons]
              · obtain ⟨blame', e', fault, hmem, hreplies, hfault⟩ := hmet (by omega)
                refine ⟨blame', e', fault, List.mem_cons_of_mem _ hmem, ?_, hfault⟩
                rw [List.map_cons, hreplies, List.replicate_succ, List.cons_append]

/-- Nothing is kept from a sink that accepts everything. -/
lemma feedItems_watched_of_accepting (hsink : ∀ x e, (sink.accept x e).2 = none) (x : σ)
    (seen : List (Event × Option Fault)) (items : List TraceItem) :
    (feedItems sink.watched (x, seen) items).1.2.map Prod.fst
      = seen.map Prod.fst ++ TraceItem.events items := by
  induction items generalizing x seen with
  | nil => simp [feedItems]
  | cons item items ih =>
      cases item with
      | remark r => exact ih (sink.report x r) seen
      | event blame e =>
          rw [feedItems_event (sink.watched_accept (hsink x e) seen), ih]
          simp

end Failing

section Cut

variable {α β : Type} {accepting : Sink α}

/-- What comes of a teller and a sink that fails at its `n`-th event, beside what comes of the same
teller and a sink that accepts everything. -/
structure Teller.CutAt (tell : Teller) (n : Nat) (accepting : Sink α) (x : α) (failing : Sink β)
    (y : β) (Reported : Fault → Fault → Prop) : Prop where
  /-- The failing sink is told the first `n` events, or all if there are fewer. -/
  delivered : tell.delivered failing y = (tell.delivered accepting x).take n
  /-- If there are as many, only the last of them is refused, and what the sink has to say to it is
  reported. -/
  refused : n ≤ (tell.delivered accepting x).length →
    ∃ fault f, tell.replies failing y = List.replicate (n - 1) none ++ [some fault] ∧
      (tell β failing y).2 = some f ∧ Reported fault f
  /-- If there are fewer, the refusal makes no difference. -/
  spared : (tell.delivered accepting x).length < n →
    (tell β failing y).2 = (tell α accepting x).2

namespace Trace

lemma delivered_of_accepting (h : ∀ x e, (accepting.accept x e).2 = none) (t : Trace) (x : α) :
    t.teller.delivered accepting x = t.events := by
  rw [Teller.delivered, exchange_teller, feedItems_watched_of_accepting h]
  rfl

lemma feed_of_accepting (h : ∀ x e, (accepting.accept x e).2 = none) (t : Trace) (x : α) :
    (t.feed accepting x).2 = t.fault := by
  rw [snd_feed, feedItems_of_accepting h]
  rfl

/-- **Every trace is cut at a refusal**, with a report that depends on its blames. -/
theorem cutAt (t : Trace) {n : Nat} (hn : 1 ≤ n)
    (haccepting : ∀ x e, (accepting.accept x e).2 = none) (x : α) {failing : Sink β} {y : β}
    (hfailing : failing.FailsAt y n) {Reported : Fault → Fault → Prop}
    (hreported : ∀ blame e fault, .event blame e ∈ t.items → Reported fault (blame.wrap fault)) :
    t.teller.CutAt n accepting x failing y Reported := by
  obtain ⟨n, rfl⟩ : ∃ m, n = m + 1 := ⟨n - 1, by omega⟩
  have hall : t.teller.delivered accepting x = t.events := delivered_of_accepting haccepting t x
  obtain ⟨told, hexchange, hevents, hmet, hmissed⟩ :=
    feedItems_watched_of_failsAt hfailing [] t.items
  rw [← exchange_teller, List.nil_append] at hexchange
  rw [(feedItems_watched failing y [] t.items).2] at hmet hmissed
  refine ⟨?_, fun hle => ?_, fun hlt => ?_⟩
  · rw [hall, Teller.delivered, hexchange, hevents]
    rfl
  · rw [hall] at hle
    obtain ⟨blame, e, fault, hmem, hreplies, hfault⟩ := hmet hle
    refine ⟨fault, blame.wrap fault, ?_, ?_, hreported blame e fault hmem⟩
    · rw [Teller.replies, hexchange, hreplies, Nat.add_sub_cancel]
    · rw [teller, snd_feed, hfault]
      rfl
  · rw [hall] at hlt
    rw [teller, teller, feed_of_accepting haccepting, snd_feed,
      hmissed (Nat.lt_succ_iff.mp hlt)]
    rfl

end Trace

end Cut

/-! ## Whose fault -/

/-- Every event is blamed on a place. -/
def Placed (items : List TraceItem) : Prop :=
  ∀ blame e, .event blame e ∈ items → ∃ location, blame = .place location

lemma placed_nil : Placed [] := by
  intro blame e h
  cases h

lemma Placed.cons {items : List TraceItem} (h : Placed items) (location : Location) (e : Event) :
    Placed (.event (.place location) e :: items) := by
  intro blame e' hmem
  rcases List.mem_cons.mp hmem with heq | hmem
  · cases heq
    exact ⟨location, rfl⟩
  · exact h blame e' hmem

lemma Placed.append {items items' : List TraceItem} (h : Placed items) (h' : Placed items') :
    Placed (items ++ items') := by
  intro blame e hmem
  rcases List.mem_append.mp hmem with hmem | hmem
  · exact h blame e hmem
  · exact h' blame e hmem

namespace ScriptState

lemma placed_goto (s : ScriptState) : Placed (goto s).events := placed_nil

lemma placed_emit (t : Token) (e : Event) (s : ScriptState) : Placed (emit t e s).events :=
  placed_nil.cons t.location e

lemma placed_stop (t : Token) (cause : Fault) : Placed (stop t cause).events := placed_nil

lemma placed_stepArguments (container : String) (t : Token) :
    Placed (stepArguments container t).events := by
  rw [stepArguments.eq_def]
  split_ifs
  · exact placed_goto _
  · split
    · exact placed_goto _
    · split
      · exact placed_emit _ _ _
      · exact placed_stop _ _
    · exact placed_stop _ _

lemma placed_stepBehindGroup (use : GroupUse) (container : String) (first : Token)
    (texts : List String) (t : Token) :
    Placed (stepBehindGroup use container first texts t).events := by
  rw [stepBehindGroup.eq_def]
  split
  · exact placed_stop _ _
  · split
    · exact (placed_stepArguments container t).cons first.location _
    · split
      · rw [stepInsertionEnd]
        split_ifs
        · exact placed_emit _ _ _
        · exact placed_stop _ _
      · exact placed_stop _ _

/-- **One token**: whatever it delivers has a place to blame. -/
lemma placed_step (s : ScriptState) (t : Token) : Placed (s.step t).events := by
  cases s with
  | top =>
      rw [step, stepTop.eq_def]
      split
      · exact placed_goto _
      · exact placed_goto _
      · exact placed_goto _
      · exact placed_stop _ _
  | macroName =>
      rw [step]
      split_ifs
      · exact placed_goto _
      · exact placed_stop _ _
  | header kind name =>
      rw [step.eq_def]
      dsimp only
      split_ifs
      · exact placed_emit _ _ _
      · exact placed_stop _ _
  | body container =>
      rw [step, stepBody.eq_def]
      split_ifs
      · exact placed_emit _ _ _
      · split
        · exact placed_stop _ _
        · split
          · exact placed_emit _ _ _
          · exact placed_goto _
        · exact placed_stop _ _
  | arguments container => exact placed_stepArguments container t
  | group use container first texts =>
      rw [step]
      split_ifs
      · exact placed_goto _
      · exact placed_stepBehindGroup _ _ _ _ _
  | component use container first texts =>
      rw [step]
      split_ifs
      · exact placed_goto _
      · exact placed_stop _ _
  | insertion container head =>
      rw [step]
      split_ifs
      · exact placed_emit _ _ _
      · exact placed_goto _
      · exact placed_stop _ _
  | finished => exact placed_goto _

end ScriptState

lemma placed_readScriptFrom (s : ScriptState) (lexemes : List (Except ScanError Token)) :
    Placed (readScriptFrom s [] lexemes).items := by
  induction lexemes generalizing s with
  | nil => exact placed_nil
  | cons lexeme lexemes ih =>
      cases lexeme with
      | error e => exact placed_nil
      | ok t =>
          have hstep := s.placed_step t
          rw [readScriptFrom]
          cases (s.step t).next with
          | error f => simpa using hstep
          | ok s' =>
              dsimp only
              rw [readScriptFrom_eq]
              simpa using hstep.append (ih s')

/-- **A script** has a place to blame for each of its events. -/
lemma Source.placed_trace (s : Source) : Placed s.trace.items := placed_readScriptFrom .top _

/-! ## Scripts, blocks and streams -/

/-- Telling a script. -/
def Source.teller (s : Source) : Teller := fun _ sink x => s.tell sink x

/-- Telling a block. -/
def blockTeller (name : String) (prim : Option Prim) (writes : List Write) : Teller :=
  fun _ sink x => tellBlock sink name prim writes x

/-- Telling a packet stream. -/
def streamTeller (bytes : Bytes) (ending : Ending) : Teller :=
  fun _ sink x => tellStream sink bytes ending x

lemma Source.teller_eq (s : Source) : s.teller = s.trace.teller := by
  funext σ sink x
  exact s.tell_eq_feed sink x

lemma blockTeller_eq (name : String) (prim : Option Prim) (writes : List Write) :
    blockTeller name prim writes = Trace.teller { items := replay name prim writes } := by
  funext σ sink x
  rw [blockTeller, tellBlock_eq_feed, Trace.teller, Trace.feed]
  rcases feedItems sink x (replay name prim writes) with ⟨y, _ | f⟩ <;> rfl

lemma streamTeller_eq (bytes : Bytes) (ending : Ending) :
    streamTeller bytes ending = (disassemble bytes ending).teller := by
  funext σ sink x
  exact tellStream_eq_feed sink bytes ending x

/-- **A refusal only cuts the events short.**  A sink that fails at its `n`-th event is told the
first `n` events of a script, or all if there are fewer.  If it comes to the refusal, what is
reported is the sink's reply at a place in the script; otherwise the script ends as it does with a
sink that accepts everything.  The same holds for a block that is replayed and for a packet stream,
where the sink's reply lies somewhere under what is reported. -/
theorem tell_cutAt {α β : Type} (accepting : Sink α)
    (haccepting : ∀ x e, (accepting.accept x e).2 = none) (x : α) (failing : Sink β) (y : β)
    (n : Nat) (hn : 1 ≤ n) (hfailing : failing.FailsAt y n) :
    (∀ s : Source, s.teller.CutAt n accepting x failing y
      fun fault f => ∃ location, f = .located location fault) ∧
    (∀ name prim writes, (blockTeller name prim writes).CutAt n accepting x failing y
      fun fault f => fault ∈ f.chain) ∧
    ∀ bytes ending, (streamTeller bytes ending).CutAt n accepting x failing y
      fun fault f => fault ∈ f.chain := by
  refine ⟨fun s => ?_, fun name prim writes => ?_, fun bytes ending => ?_⟩
  · rw [s.teller_eq]
    refine s.trace.cutAt hn haccepting x hfailing fun blame e fault hmem => ?_
    obtain ⟨location, rfl⟩ := s.placed_trace blame e hmem
    exact ⟨location, rfl⟩
  · rw [blockTeller_eq]
    exact Trace.cutAt _ hn haccepting x hfailing fun blame _ fault _ => blame.mem_chain_wrap fault
  · rw [streamTeller_eq]
    exact Trace.cutAt _ hn haccepting x hfailing fun blame _ fault _ => blame.mem_chain_wrap fault

lemma Recorder.count_after (failAt : Option Nat) (fault : Fault) (r : Recorder)
    (history : List TraceItem) :
    ((Recorder.sink failAt fault).after r history).count
      = r.count + (TraceItem.events history).length := by
  induction history generalizing r with
  | nil => rfl
  | cons item history ih =>
      cases item with
      | remark remark => exact ih _
      | event blame e =>
          rw [Sink.after, ih, TraceItem.events_cons_event, List.length_cons]
          simp only [sink]
          omega

/-- A recorder that is told to refuse does so when it is told to. -/
lemma Recorder.failsAt (n : Nat) (fault : Fault) :
    (Recorder.sink (some n) fault).FailsAt {} n := by
  intro history e
  have hcount := count_after (some n) fault {} history
  simp only [sink] at hcount ⊢
  refine ⟨fun hlt => ?_, fun heq => ?_⟩
  · rw [hcount, if_neg (by simp; omega)]
  · rw [hcount, if_pos (by simp [← heq])]
    rfl

/-- The script of eleven events, told to a recorder that refuses the sixth, the insertion. -/
theorem tell_cutAt_moving :
    (∀ x e, ((Recorder.sink none .canceled).accept x e).2 = none) ∧ 1 ≤ 6 ∧
      (Recorder.sink (some 6) .canceled).FailsAt {} 6 ∧
      Source.moving.teller.delivered (Recorder.sink (some 6) .canceled) {}
        = Source.movingEvents.take 6 ∧
      ∃ location, (Source.moving.tell (Recorder.sink (some 6) .canceled) {}).2
        = some (.located location .canceled) := by
  have haccepting : ∀ x e, ((Recorder.sink none .canceled).accept x e).2 = none := fun _ _ => rfl
  have hfailing := Recorder.failsAt 6 .canceled
  have hevents : Source.moving.teller.delivered (Recorder.sink none .canceled) {}
      = Source.movingEvents := by
    rw [Source.teller_eq, Trace.delivered_of_accepting haccepting, Source.trace_eq_evaluated]
    decide +kernel
  have hreplies : Source.moving.teller.replies (Recorder.sink (some 6) .canceled) {}
      = List.replicate 5 none ++ [some .canceled] := by
    rw [Source.teller_eq, Source.trace_eq_evaluated]
    decide +kernel
  obtain ⟨hdelivered, hrefused, -⟩ := (tell_cutAt (Recorder.sink none .canceled) haccepting {}
    (Recorder.sink (some 6) .canceled) {} 6 (by decide) hfailing).1 Source.moving
  rw [hevents] at hdelivered hrefused
  obtain ⟨fault, f, hlast, hf, location, rfl⟩ := hrefused (by decide)
  rw [hreplies] at hlast
  obtain rfl : Fault.canceled = fault := by simpa using hlast
  exact ⟨haccepting, by decide, hfailing, hdelivered, location, hf⟩

end RegisterScript
