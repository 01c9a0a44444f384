import RegisterScript.Proofs.Reading
import RegisterScript.Script.Descent

/-!
# Telling is feeding

There are two ways to hand a script to a sink.  The automaton takes one token after the other,
leaves a trace, and the trace is fed.  The descent (`Source.tell`) calls itself where the grammar
does, tells each event as it comes to it, and acts on the reply.  They come to the same for every
sink, also for one that refuses some events and takes others (`Source.tell_eq_feed`).  With blocks
and packet streams it is the same (`tellBlock_eq_feed`, `tellStream_eq_feed`).

**Scripts.**  `resume` is the automaton at work from some state and place on: what it has still to
deliver is fed as it is delivered, so that it takes its steps in turns with the sink
(`resume_of_ahead`).  For each construct there is then a state in which the automaton stands before
it, and the descent through the construct takes the automaton to the state behind it
(`resume_arguments`, `resume_insertion`, `resume_statement`, `resume_body`, `resume_header`,
`resume_item`).  The constructs that repeat go by induction on the place: what has been read is
behind.

The two look ahead differently.  A group of numbers ends at the first token that does not continue
it; the automaton takes that token and then knows, while the descent leaves it where it is
(`resume_group`).

**Blocks.**  A write blames nobody for a refusal, and the block or the tag it belongs to adds the
blame.  In a trace each event carries its blame, so the blame is taken out first
(`feedItems_blamed`).
-/

namespace RegisterScript

/-- What holds of a place if it holds of all places behind it holds everywhere. -/
@[elab_as_elim]
lemma Behind.induction {motive : Cursor → Prop}
    (step : ∀ c, (∀ b : Behind c, motive b) → motive c) (c : Cursor) : motive c :=
  (measure fun c : Cursor => c.rest.length).wf.induction c fun c ih =>
    step c fun b => ih b.1 b.2

section Telling

variable {σ : Type} {sink : Sink σ} {s : Source} {x : σ} {c : Cursor}

/-! ## The automaton, place by place -/

/-- Feeds what a move delivers, and goes on from its next state. -/
def ScriptMove.feed (sink : Sink σ) (x : σ) (move : ScriptMove)
    (goOn : ScriptState → σ → σ × Option Fault) : σ × Option Fault :=
  match feedItems sink x move.events with
  | (x, some f) => (x, some f)
  | (x, none) =>
    match move.next with
    | .error f => (x, some f)
    | .ok state => goOn state x

namespace ScriptMove

variable {goOn : ScriptState → σ → σ × Option Fault}

lemma feed_goto (state : ScriptState) :
    (ScriptState.goto state).feed sink x goOn = goOn state x := rfl

lemma feed_misfit (t : Token) (cause : GrammarError) :
    (ScriptState.misfit t cause).feed sink x goOn = (x, some (t.misfit cause)) := rfl

/-- The first event of a move is told on account of its token. -/
lemma feed_cons (t : Token) (e : Event) (move : ScriptMove) :
    ScriptMove.feed sink x { move with events := .event (.place t.location) e :: move.events } goOn
      = match sink.tell t x e with
        | (x, some f) => (x, some f)
        | (x, none) => move.feed sink x goOn := by
  rw [feed, feedItems, Sink.tell]
  rcases sink.accept x e with ⟨y, _ | f⟩ <;> rfl

lemma feed_emit (t : Token) (e : Event) (state : ScriptState) :
    (ScriptState.emit t e state).feed sink x goOn =
      match sink.tell t x e with
      | (x, some f) => (x, some f)
      | (x, none) => goOn state x :=
  feed_cons t e (ScriptState.goto state)

end ScriptMove

/-- What comes of the automaton if it reads on from a place. -/
def resume (sink : Sink σ) (s : Source) (state : ScriptState) (x : σ) (c : Cursor) :
    σ × Option Fault :=
  (readScriptFrom state [] (lexemesFrom s.name s.ending 1 c [])).feed sink x

/-- The same behind a token, which may have been the end of the input. -/
def resumeBehind (sink : Sink σ) (s : Source) (a : Ahead c) (state : ScriptState) (x : σ) :
    σ × Option Fault :=
  if a.token.kind = .endOfInput then (x, none) else resume sink s state x a.behind

lemma resumeBehind_of_ne {a : Ahead c} (h : a.token.kind ≠ .endOfInput) (state : ScriptState) :
    resumeBehind sink s a state x = resume sink s state x a.behind := if_neg h

lemma feed_readScriptFrom_cons (state : ScriptState) (t : Token)
    (lexemes : List (Except ScanError Token)) :
    (readScriptFrom state [] (.ok t :: lexemes)).feed sink x =
      (state.step t).feed sink x fun state x => (readScriptFrom state [] lexemes).feed sink x := by
  rw [readScriptFrom, ScriptMove.feed]
  cases hnext : (state.step t).next with
  | error f =>
      rcases hfed : feedItems sink x (state.step t).events with ⟨y, _ | f⟩ <;>
        simp only [Trace.feed, List.append_nil, List.reverse_reverse, hfed]
  | ok state' =>
      dsimp only
      rw [readScriptFrom_eq, List.append_nil, List.reverse_reverse]
      rcases hfed : feedItems sink x (state.step t).events with ⟨y, _ | f⟩
      · simp only [Trace.feed, feedItems_append hfed]
      · simp only [Trace.feed, feedItems_append_of_refused hfed]

/-- **The automaton takes one step for the token ahead.** -/
lemma resume_of_ahead {a : Ahead c} (h : s.ahead c = .ok a) (state : ScriptState) :
    resume sink s state x c = (state.step a.token).feed sink x (resumeBehind sink s a) := by
  rw [Source.ahead] at h
  split at h
  · rename_i position hnext
    obtain rfl := Except.ok.inj h
    rw [resume, lexemesFrom_succ, hnext]
    exact feed_readScriptFrom_cons state _ []
  · rename_i kind text position rest hnext
    obtain rfl := Except.ok.inj h
    have hkind : kind ≠ .endOfInput := by
      rintro rfl
      exact scanned_of_next hnext
    rw [resume, lexemesFrom_of_token hnext, feed_readScriptFrom_cons]
    congr 1
    funext state x
    exact (if_neg hkind).symm
  · cases h

lemma resume_of_error {f : Fault} (h : s.ahead c = .error f) (state : ScriptState) :
    resume sink s state x c = (x, some f) := by
  rw [Source.ahead] at h
  split at h
  · cases h
  · cases h
  · rename_i error rest hnext
    obtain rfl := Except.error.inj h
    rw [resume, lexemesFrom_of_failed hnext]
    rfl

/-! ## Operands -/

/-- **A group of numbers** ends at a token that does not continue it, and that token is then read as
what stands behind the group. -/
lemma resume_group (sink : Sink σ) (s : Source) (use : GroupUse) (container : String)
    (first : Token) (texts : List String) (x : σ) (c : Cursor) :
    (∀ f, s.numbers texts c = .error f →
      resume sink s (.group use container first texts) x c = (x, some f)) ∧
    ∀ texts' c', s.numbers texts c = .ok (texts', c') → ∃ a, s.ahead c'.1 = .ok a ∧
      resume sink s (.group use container first texts) x c
        = (ScriptState.stepBehindGroup use container first texts' a.token).feed sink x
          (resumeBehind sink s a) := by
  induction c using Behind.induction generalizing texts with
  | step c ih =>
    rw [Source.numbers]
    cases hcomma : s.ahead c with
    | error f =>
        refine ⟨fun f' hf => ?_, by simp⟩
        rw [resume_of_error hcomma, Except.error.inj hf]
    | ok comma =>
      rw [resume_of_ahead hcomma, ScriptState.step]
      by_cases hmark : comma.token.isMark "," = true
      · have hbehind := comma.shorter (Token.ne_endOfInput_of_isMark hmark)
        rw [if_pos hmark, ScriptMove.feed_goto,
          resumeBehind_of_ne (Token.ne_endOfInput_of_isMark hmark)]
        dsimp only
        rw [dif_pos hmark]
        cases hnumber : s.ahead comma.behind with
        | error f =>
            refine ⟨fun f' hf => ?_, by simp⟩
            rw [resume_of_error hnumber, Except.error.inj hf]
        | ok number =>
          rw [resume_of_ahead hnumber, ScriptState.step]
          by_cases hkind : number.token.kind = .number
          · have hne : number.token.kind ≠ .endOfInput := by simp [hkind]
            have hlt := (number.shorter hne).trans hbehind
            obtain ⟨herror, hok⟩ := ih ⟨number.behind, hlt⟩ (number.token.text :: texts)
            rw [if_pos hkind, ScriptMove.feed_goto, resumeBehind_of_ne hne]
            dsimp only
            rw [dif_pos hkind]
            cases hmore : s.numbers (number.token.text :: texts) number.behind with
            | error f =>
                refine ⟨fun f' hf => ?_, by simp⟩
                rw [herror f hmore, Except.error.inj hf]
            | ok read =>
                refine ⟨by simp, fun texts' c' hread => ?_⟩
                obtain ⟨rfl, rfl⟩ := Prod.mk.inj (Except.ok.inj hread)
                exact hok _ _ hmore
          · rw [if_neg hkind, ScriptMove.feed_misfit]
            dsimp only
            rw [dif_neg hkind]
            exact ⟨fun f hf => by rw [Except.error.inj hf], by simp⟩
      · rw [if_neg hmark]
        dsimp only
        rw [dif_neg hmark]
        refine ⟨by simp, fun texts' c' hok => ?_⟩
        obtain ⟨rfl, rfl⟩ := Prod.mk.inj (Except.ok.inj hok)
        exact ⟨comma, hcomma, rfl⟩

/-- An operand is pushed once the token behind it is known. -/
lemma resume_argument (container : String) {a : Ahead c} (hnumber : a.token.kind = .number)
    (x : σ) :
    resume sink s (.group .argument container a.token [a.token.text]) x a.behind =
      match s.value a hnumber with
      | .error f => (x, some f)
      | .ok (v, c') =>
        match sink.tell a.token x (.push v) with
        | (x, some f) => (x, some f)
        | (x, none) => resume sink s (.arguments container) x c' := by
  obtain ⟨herror, hok⟩ := resume_group sink s .argument container a.token
    [a.token.text] x a.behind
  rw [Source.value]
  cases hnumbers : s.numbers [a.token.text] a.behind with
  | error f => exact herror f hnumbers
  | ok read =>
      obtain ⟨texts, c'⟩ := read
      obtain ⟨b, hb, hresume⟩ := hok texts c' hnumbers
      rw [hresume, ScriptState.stepBehindGroup]
      dsimp only
      cases ScriptState.groupValue texts with
      | error cause => rfl
      | ok v =>
          dsimp only
          rw [ScriptMove.feed_cons]
          rcases sink.tell a.token x (.push v) with ⟨y, _ | f⟩
          · exact (resume_of_ahead hb (.arguments container)).symm
          · rfl

/-- The offset of an insertion is two numbers with the end of the statement behind them. -/
lemma resume_offset (container : String) (head : Token) {a : Ahead c}
    (hnumber : a.token.kind = .number) (x : σ) :
    resume sink s (.group (.offset head) container a.token [a.token.text]) x a.behind =
      match s.value a hnumber with
      | .error f => (x, some f)
      | .ok (.vec2 offset, c') =>
        match s.takeMark ";" c' with
        | .error f => (x, some f)
        | .ok b =>
          match sink.tell head x (.insert head.text (some offset)) with
          | (x, some f) => (x, some f)
          | (x, none) => resume sink s (.body container) x b
      | .ok (v, _) => (x, some (a.token.misfit (.offsetArity v.arity))) := by
  obtain ⟨herror, hok⟩ := resume_group sink s (.offset head) container a.token
    [a.token.text] x a.behind
  rw [Source.value]
  cases hnumbers : s.numbers [a.token.text] a.behind with
  | error f => exact herror f hnumbers
  | ok read =>
      obtain ⟨texts, c'⟩ := read
      obtain ⟨b, hb, hresume⟩ := hok texts c' hnumbers
      rw [hresume, ScriptState.stepBehindGroup]
      dsimp only
      cases ScriptState.groupValue texts with
      | error cause => rfl
      | ok v =>
          cases v with
          | vec2 offset =>
              dsimp only
              rw [ScriptState.stepInsertionEnd, Source.takeMark, hb]
              by_cases hend : b.token.isMark ";" = true
              · rw [if_pos hend, ScriptMove.feed_emit]
                dsimp only
                rw [dif_pos hend]
                simp only [resumeBehind_of_ne (Token.ne_endOfInput_of_isMark hend)]
              · rw [if_neg hend, ScriptMove.feed_misfit]
                dsimp only
                rw [dif_neg hend]
          | scalar | vec3 | vec4 => rfl

/-! ## Constructs -/

/-- Goes on behind a construct, if it was read to its end. -/
def Told.andThen (told : Told σ c) (goOn : σ → Cursor → σ × Option Fault) : σ × Option Fault :=
  match told with
  | (x, .error f) => (x, some f)
  | (x, .ok b) => goOn x b

lemma Told.andThen_since {c' : Cursor} (h : c'.rest.length < c.rest.length) (told : Told σ c')
    (goOn : σ → Cursor → σ × Option Fault) :
    (told.since h).andThen goOn = told.andThen goOn := by
  rcases told with ⟨y, f | b⟩ <;> rfl

lemma resume_arguments (container : String) (x : σ) (c : Cursor) :
    resume sink s (.arguments container) x c
      = (s.tellArguments sink x c).andThen (resume sink s (.body container)) := by
  induction c using Behind.induction generalizing x with
  | step c ih =>
    rw [Source.tellArguments]
    cases h : s.ahead c with
    | error f => exact resume_of_error h _
    | ok a =>
      rw [resume_of_ahead h, ScriptState.step, ScriptState.stepArguments.eq_def]
      dsimp only
      by_cases hend : a.token.isMark ";" = true
      · rw [if_pos hend, dif_pos hend, ScriptMove.feed_goto,
          resumeBehind_of_ne (Token.ne_endOfInput_of_isMark hend)]
        rfl
      rw [if_neg hend, dif_neg hend]
      by_cases hnumber : a.token.kind = .number
      · rw [dif_pos hnumber, hnumber]
        dsimp only
        rw [ScriptMove.feed_goto, resumeBehind_of_ne (by simp [hnumber]),
          resume_argument container hnumber]
        rcases s.value a hnumber with f | ⟨v, c'⟩
        · rfl
        dsimp only
        rcases sink.tell a.token x (.push v) with ⟨y, _ | f⟩
        · exact (ih c' y).trans (Told.andThen_since c'.2 _ _).symm
        · rfl
      rw [dif_neg hnumber]
      by_cases hname : a.token.kind = .identifier
      · have hne : a.token.kind ≠ .endOfInput := by simp [hname]
        rw [dif_pos hname, hname]
        dsimp only
        cases Modifier.ofName? a.token.text with
        | none => rfl
        | some m =>
          dsimp only
          rw [ScriptMove.feed_emit]
          rcases sink.tell a.token x (.modify m) with ⟨y, _ | f⟩
          · dsimp only
            rw [resumeBehind_of_ne hne, Told.andThen_since]
            exact ih ⟨a.behind, a.shorter hne⟩ y
          · rfl
      rw [dif_neg hname]
      cases hkind : a.token.kind with
      | number => exact absurd hkind hnumber
      | identifier => exact absurd hkind hname
      | endOfInput | keyword | punctuation => rfl

lemma resume_insertion (container : String) (head : Token) (x : σ) (c : Cursor) :
    resume sink s (.insertion container head) x c
      = (s.tellInsertion sink head x c).andThen (resume sink s (.body container)) := by
  rw [Source.tellInsertion]
  cases h : s.ahead c with
  | error f => exact resume_of_error h _
  | ok a =>
    rw [resume_of_ahead h, ScriptState.step]
    dsimp only
    by_cases hend : a.token.isMark ";" = true
    · rw [if_pos hend, dif_pos hend, ScriptMove.feed_emit]
      rcases sink.tell head x (.insert head.text none) with ⟨y, _ | f⟩
      · exact resumeBehind_of_ne (Token.ne_endOfInput_of_isMark hend) _
      · rfl
    rw [if_neg hend, dif_neg hend]
    by_cases hnumber : a.token.kind = .number
    · rw [if_pos hnumber, dif_pos hnumber, ScriptMove.feed_goto,
        resumeBehind_of_ne (by simp [hnumber]), resume_offset container head hnumber]
      rcases s.value a hnumber with f | ⟨v, c'⟩
      · rfl
      cases v with
      | vec2 offset =>
        dsimp only
        rcases s.takeMark ";" c' with f | b
        · rfl
        dsimp only
        rcases sink.tell head x (.insert head.text (some offset)) with ⟨y, _ | f⟩ <;> rfl
      | scalar | vec3 | vec4 => rfl
    · rw [if_neg hnumber, dif_neg hnumber]
      rfl

/-- A statement starts with a name.  What else can stand between statements is not one. -/
lemma resume_statement (container : String) {a : Ahead c} (h : s.ahead c = .ok a)
    (hclose : a.token.isMark "\x7d" ≠ true) (hend : a.token.kind ≠ .endOfInput) (x : σ) :
    resume sink s (.body container) x c
      = (s.tellStatement sink x c).andThen (resume sink s (.body container)) := by
  rw [Source.tellStatement, Source.takeName, h, resume_of_ahead h, ScriptState.step,
    ScriptState.stepBody.eq_def, if_neg hclose]
  dsimp only
  by_cases hname : a.token.kind = .identifier
  · rw [dif_pos hname, hname]
    dsimp only
    cases Register.ofName? a.token.text with
    | none =>
      dsimp only
      rw [ScriptMove.feed_goto, resumeBehind_of_ne hend, Told.andThen_since]
      exact resume_insertion container a.token x a.behind
    | some r =>
      dsimp only
      rw [ScriptMove.feed_emit]
      rcases sink.tell a.token x (.select r.address) with ⟨y, _ | f⟩
      · dsimp only
        rw [resumeBehind_of_ne hend, Told.andThen_since]
        exact resume_arguments container y a.behind
      · rfl
  · rw [dif_neg hname]
    cases hkind : a.token.kind with
    | endOfInput => exact absurd hkind hend
    | identifier => exact absurd hkind hname
    | number | keyword | punctuation => rfl

lemma resume_body (container : String) (x : σ) (c : Cursor) :
    resume sink s (.body container) x c
      = (s.tellBody sink container x c).andThen (resume sink s .top) := by
  induction c using Behind.induction generalizing x with
  | step c ih =>
    rw [Source.tellBody]
    cases h : s.ahead c with
    | error f => exact resume_of_error h _
    | ok a =>
      dsimp only
      by_cases hclose : a.token.isMark "\x7d" = true
      · rw [dif_pos hclose, resume_of_ahead h, ScriptState.step, ScriptState.stepBody.eq_def,
          if_pos hclose, ScriptMove.feed_emit]
        rcases sink.tell a.token x .close with ⟨y, _ | f⟩
        · exact resumeBehind_of_ne (Token.ne_endOfInput_of_isMark hclose) _
        · rfl
      rw [dif_neg hclose]
      by_cases hend : a.token.kind = .endOfInput
      · rw [if_pos hend, resume_of_ahead h, ScriptState.step, ScriptState.stepBody.eq_def,
          if_neg hclose, hend]
        rfl
      rw [if_neg hend, resume_statement container h hclose hend]
      rcases s.tellStatement sink x c with ⟨y, f | c'⟩
      · rfl
      · exact (ih c' y).trans (Told.andThen_since c'.2 _ _).symm

lemma resume_header (kind : ContainerKind) (name : Token) (x : σ) (c : Cursor) :
    resume sink s (.header kind name) x c
      = (s.tellContainer sink kind name x c).andThen (resume sink s .top) := by
  rw [Source.tellContainer.eq_def, Source.takeMark]
  cases h : s.ahead c with
  | error f => exact resume_of_error h _
  | ok a =>
    rw [resume_of_ahead h, ScriptState.step.eq_def]
    dsimp only
    by_cases hopen : a.token.isMark "\x7b" = true
    · have hbody (y : σ) : resumeBehind sink s a (.body name.text) y
          = (s.tellBody sink name.text y a.behind).andThen (resume sink s .top) := by
        rw [resumeBehind_of_ne (Token.ne_endOfInput_of_isMark hopen), resume_body]
      rw [if_pos hopen, dif_pos hopen, ScriptMove.feed_emit]
      cases kind with
      | block =>
        dsimp only
        rcases sink.tell name x (.startBlock name.text) with ⟨y, _ | f⟩
        · exact (hbody y).trans (Told.andThen_since _ _ _).symm
        · rfl
      | macroDef =>
        dsimp only
        rcases sink.tell name x (.startMacro name.text) with ⟨y, _ | f⟩
        · exact (hbody y).trans (Told.andThen_since _ _ _).symm
        · rfl
    · rw [if_neg hopen, dif_neg hopen]
      rfl

/-- What is not the end of the input is a definition or nothing. -/
lemma resume_item {a : Ahead c} (h : s.ahead c = .ok a) (hend : a.token.kind ≠ .endOfInput)
    (x : σ) :
    resume sink s .top x c = (s.tellItem sink x c).andThen (resume sink s .top) := by
  rw [Source.tellItem, h, resume_of_ahead h, ScriptState.step, ScriptState.stepTop.eq_def]
  dsimp only
  by_cases hkeyword : a.token.kind = .keyword
  · rw [dif_pos hkeyword, hkeyword]
    dsimp only
    rw [ScriptMove.feed_goto, resumeBehind_of_ne hend, Source.takeName]
    cases hname : s.ahead a.behind with
    | error f => exact resume_of_error hname _
    | ok name =>
      rw [resume_of_ahead hname, ScriptState.step]
      dsimp only
      by_cases hidentifier : name.token.kind = .identifier
      · rw [if_pos hidentifier, dif_pos hidentifier, ScriptMove.feed_goto,
          resumeBehind_of_ne (by simp [hidentifier])]
        dsimp only
        rw [Told.andThen_since]
        exact resume_header .macroDef name.token x name.behind
      · rw [if_neg hidentifier, dif_neg hidentifier]
        rfl
  rw [dif_neg hkeyword]
  by_cases hname : a.token.kind = .identifier
  · rw [dif_pos hname, hname]
    dsimp only
    rw [ScriptMove.feed_goto, resumeBehind_of_ne hend, Told.andThen_since]
    exact resume_header .block a.token x a.behind
  rw [dif_neg hname]
  cases hkind : a.token.kind with
  | endOfInput => exact absurd hkind hend
  | keyword => exact absurd hkind hkeyword
  | identifier => exact absurd hkind hname
  | number | punctuation => rfl

lemma resume_top (x : σ) (c : Cursor) : resume sink s .top x c = s.tellItems sink x c := by
  induction c using Behind.induction generalizing x with
  | step c ih =>
    rw [Source.tellItems]
    cases h : s.ahead c with
    | error f => exact resume_of_error h _
    | ok a =>
      dsimp only
      by_cases hend : a.token.kind = .endOfInput
      · rw [if_pos hend, resume_of_ahead h, ScriptState.step, ScriptState.stepTop, hend]
        exact if_pos hend
      rw [if_neg hend, resume_item h hend]
      rcases s.tellItem sink x c with ⟨y, f | c'⟩
      · rfl
      · exact ih c' y

/-- **A script is told as its trace is fed**, whatever the sink replies. -/
theorem Source.tell_eq_feed (s : Source) (sink : Sink σ) (x : σ) :
    s.tell sink x = s.trace.feed sink x :=
  (resume_top x (Cursor.start s.text)).symm

/-! ## Blocks and streams -/

/-- Items are fed up to a place among them, and from there on if nothing has been refused. -/
lemma feedItems_append_eq (sink : Sink σ) (x : σ) (items rest : List TraceItem) :
    feedItems sink x (items ++ rest) =
      match feedItems sink x items with
      | (x, some f) => (x, some f)
      | (x, none) => feedItems sink x rest := by
  rcases h : feedItems sink x items with ⟨y, _ | f⟩
  · exact feedItems_append h rest
  · exact feedItems_append_of_refused h rest

/-- The blame is put on what comes of the bare events. -/
lemma feedItems_blamed (sink : Sink σ) (x : σ) (blame : Blame) (es : List Event) :
    feedItems sink x (es.map (.event blame)) =
      match feedItems sink x (es.map (.event .bare)) with
      | (x, some f) => (x, some (blame.wrap f))
      | (x, none) => (x, none) := by
  induction es generalizing x with
  | nil => rfl
  | cons e es ih =>
      rw [List.map_cons, List.map_cons, feedItems, feedItems]
      rcases sink.accept x e with ⟨y, _ | f⟩
      · exact ih y
      · rfl

lemma accept_eq_feed (sink : Sink σ) (x : σ) (e : Event) :
    sink.accept x e = feedItems sink x [.event .bare e] := by
  rw [feedItems]
  rcases sink.accept x e with ⟨y, _ | f⟩ <;> rfl

lemma tellModifiers_eq_feed (sink : Sink σ) (x : σ) (modifiers : List Modifier) :
    tellModifiers sink x modifiers
      = feedItems sink x ((modifiers.map Event.modify).map (.event .bare)) := by
  induction modifiers generalizing x with
  | nil => rfl
  | cons m modifiers ih =>
      rw [tellModifiers, List.map_cons, List.map_cons, feedItems]
      rcases sink.accept x (.modify m) with ⟨y, _ | f⟩
      · exact ih y
      · rfl

lemma Tex0.tell_eq_feed (sink : Sink σ) (t : Tex0) (x : σ) :
    t.tell sink x = feedItems sink x ((Write.tex0 t).fillEvents.map (.event .bare)) := by
  rw [tell, Write.fillEvents, List.map_cons, feedItems]
  rcases sink.accept x (.push (.scalar t.base)) with ⟨x, _ | f⟩
  · dsimp only
    rw [List.map_cons, feedItems]
    rcases sink.accept x (.push (.scalar t.bufferWidth)) with ⟨x, _ | f⟩
    · dsimp only
      rw [List.map_cons, feedItems]
      rcases sink.accept x (.push (.vec2 ⟨t.widthLog, t.heightLog⟩)) with ⟨x, _ | f⟩
      · exact tellModifiers_eq_feed sink x _
      · rfl
    · rfl
  · rfl

/-- **A write** is told as its events are fed. -/
lemma Write.tell_eq_feed (sink : Sink σ) (w : Write) (x : σ) :
    w.tell sink x = feedItems sink x (w.events.map (.event .bare)) := by
  rw [tell, events, List.map_cons, feedItems]
  rcases sink.accept x (.select w.register.address) with ⟨x, _ | f⟩
  · cases w with
    | prim p => exact tellModifiers_eq_feed sink x p.modifiers
    | tex0 t => exact t.tell_eq_feed sink x
    | rgbaq | uv | xyz2 | fog | fogcol | scissor | signal | finish | label =>
        exact accept_eq_feed sink x _
  · rfl

lemma tellWrites_eq_feed (sink : Sink σ) (name : String) (x : σ) (index : Nat)
    (writes : List Write) :
    tellWrites sink name x index writes = feedItems sink x
      ((writes.zipIdx index).flatMap fun (w, i) => w.events.map (.event (.write name i))) := by
  induction writes generalizing x index with
  | nil => rfl
  | cons w writes ih =>
      rw [tellWrites, w.tell_eq_feed, List.zipIdx_cons, List.flatMap_cons, feedItems_append_eq,
        feedItems_blamed sink x (.write name index)]
      rcases feedItems sink x (w.events.map (.event .bare)) with ⟨y, _ | f⟩
      · exact ih y (index + 1)
      · rfl

lemma tellTagPrim_eq_feed (sink : Sink σ) (name : String) (x : σ) (prim : Option Prim) :
    tellTagPrim sink name x prim = feedItems sink x
      (prim.toList.flatMap fun p => (Write.prim p).events.map (.event (.tagPrim name))) := by
  cases prim with
  | none => rfl
  | some p =>
      rw [tellTagPrim, Write.tell_eq_feed, Option.toList_some, List.flatMap_singleton,
        feedItems_blamed sink x (.tagPrim name)]
      rfl

/-- **A block is told as its items are fed**, whatever the sink replies. -/
theorem tellBlock_eq_feed (sink : Sink σ) (name : String) (prim : Option Prim)
    (writes : List Write) (x : σ) :
    tellBlock sink name prim writes x = feedItems sink x (replay name prim writes) := by
  rw [tellBlock, replay, feedItems]
  rcases sink.accept x (.startBlock name) with ⟨x, _ | f⟩
  · dsimp only
    rw [List.append_assoc, feedItems_append_eq, ← tellTagPrim_eq_feed]
    rcases tellTagPrim sink name x prim with ⟨x, _ | f⟩
    · dsimp only
      rw [feedItems_append_eq, ← tellWrites_eq_feed]
      rcases tellWrites sink name x 0 writes with ⟨x, _ | f⟩
      · exact accept_eq_feed sink x .close
      · rfl
    · rfl
  · rfl

lemma tellPackets_eq_feed (sink : Sink σ) (x : σ) (packets : List Packet) :
    tellPackets sink x packets = feedItems sink x (packets.flatMap Packet.items) := by
  induction packets generalizing x with
  | nil => rfl
  | cons p packets ih =>
      rw [tellPackets, List.flatMap_cons, Packet.items, List.cons_append, feedItems,
        feedItems_append_eq, ← tellBlock_eq_feed]
      rcases tellBlock sink (blockName p.offset) p.prim p.writes
        (sink.report x (.tagFound p.offset p.tag.nloop.toNat p.tag.pre)) with ⟨y, _ | f⟩
      · exact ih y
      · rfl

/-- **A packet stream is told as its trace is fed**, whatever the sink replies. -/
theorem tellStream_eq_feed (sink : Sink σ) (bytes : Bytes) (ending : Ending) (x : σ) :
    tellStream sink bytes ending x = (disassemble bytes ending).feed sink x := by
  rw [tellStream.eq_def, disassemble.eq_def]
  cases ending with
  | broken cause => rfl
  | complete =>
    dsimp only
    cases readStream bytes with
    | error e => rfl
    | ok packets =>
      dsimp only
      rw [tellPackets_eq_feed, Trace.feed]
      rcases feedItems sink x (packets.flatMap Packet.items) with ⟨y, _ | f⟩ <;> rfl

end Telling

end RegisterScript
