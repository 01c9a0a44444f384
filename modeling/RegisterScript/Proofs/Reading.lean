import RegisterScript.Proofs.Feeding
import RegisterScript.Proofs.Scanning
import RegisterScript.Proofs.Spelling

/-!
# Reading a script symbol by symbol

The automaton of scripts goes by the symbols of tokens; their places only end up in the blame.
`Reads s symbols es` says that tokens with these symbols, read from the state `s` to the end,
deliver the events `es` without a fault.  Like a text, a script is read from its end: each lemma
puts one symbol in front.

**Operands.**  A group of numbers gets its value only once the symbol behind it is known
(`Reads.behindGroup`), and that symbol is then read as what follows an argument.

**Moves.**  `ScriptState.Moves` lists what one token can do without a fault (`outcome_step`); what
follows goes by this list and does not look into the automaton again.

**Names.**  Containers are named by identifiers and by nothing else, so every name in a trace is one
that can be printed and read again (`isName_of_startBlock_mem`).
-/

namespace RegisterScript

/-- Tokens with these symbols, read from the state to the end, deliver these events. -/
def Reads (s : ScriptState) (symbols : List Symbol) (es : List Event) : Prop :=
  ∀ tokens : List Token, tokens.map Token.symbol = symbols →
    ∃ items, TraceItem.events items = es ∧
      readScriptFrom s [] (tokens.map .ok) = { items := items }

/-- The symbol of a mark. -/
def markSymbol (mark : String) : Symbol := ⟨.punctuation, mark⟩

/-- The symbol of a number. -/
def numberSymbol (text : String) : Symbol := ⟨.number, text⟩

/-- The symbols of numbers, each behind a comma. -/
def moreNumbers (texts : List String) : List Symbol :=
  texts.flatMap fun text => [markSymbol ",", numberSymbol text]

/-- The symbol of a cell. -/
def cellSymbol (c : Cell) : Symbol := ⟨.number, renderCell c⟩

/-! ## One token -/

/-- What has been read before is only carried along. -/
lemma readScriptFrom_eq (s : ScriptState) (read : List TraceItem)
    (lexemes : List (Except ScanError Token)) :
    readScriptFrom s read lexemes =
      { items := read.reverse ++ (readScriptFrom s [] lexemes).items
        fault := (readScriptFrom s [] lexemes).fault } := by
  induction lexemes generalizing s read with
  | nil => simp [readScriptFrom]
  | cons lexeme lexemes ih =>
      cases lexeme with
      | error e => simp [readScriptFrom]
      | ok t =>
          simp only [readScriptFrom]
          cases (s.step t).next with
          | error f => simp
          | ok s' =>
              simp only
              rw [ih, ih s' ((s.step t).events.reverse ++ [])]
              simp

lemma readScriptFrom_of_step {s s' : ScriptState} {t : Token} {items : List TraceItem}
    (h : s.step t = { events := items, next := .ok s' }) (lexemes : List (Except ScanError Token)) :
    readScriptFrom s [] (.ok t :: lexemes) =
      { items := items ++ (readScriptFrom s' [] lexemes).items
        fault := (readScriptFrom s' [] lexemes).fault } := by
  simp only [readScriptFrom, h]
  rw [readScriptFrom_eq]
  simp

namespace Reads

variable {s s' : ScriptState} {container : String} {symbols : List Symbol} {es : List Event}

/-- One step, whatever the place of the token. -/
lemma step (delivered : List Event) {symbol : Symbol}
    (hstep : ∀ t : Token, t.symbol = symbol → ∃ items s', TraceItem.events items = delivered ∧
      s.step t = { events := items, next := .ok s' } ∧ Reads s' symbols es) :
    Reads s (symbol :: symbols) (delivered ++ es) := by
  intro tokens htokens
  obtain ⟨t, tokens, rfl, ht, htokens⟩ := List.map_eq_cons_iff.mp htokens
  obtain ⟨items, s', hitems, hmove, hreads⟩ := hstep t ht
  obtain ⟨items', hitems', hread⟩ := hreads tokens htokens
  refine ⟨items ++ items', by rw [TraceItem.events_append, hitems, hitems'], ?_⟩
  rw [List.map_cons, readScriptFrom_of_step hmove, hread]

lemma finished : Reads .finished [] [] := by
  intro tokens htokens
  rw [List.map_eq_nil_iff.mp htokens]
  exact ⟨[], rfl, rfl⟩

lemma endOfInput : Reads .top [⟨.endOfInput, ""⟩] [] := by
  refine step [] fun t ht => ⟨[], .finished, rfl, ?_, finished⟩
  cases t
  cases ht
  rfl

lemma header {kind : ContainerKind} {t : Token} (h : Reads (.body t.text) symbols es) :
    Reads (.header kind t) (markSymbol "\x7b" :: symbols) (kind.startEvent t.text :: es) := by
  refine step [kind.startEvent t.text] fun t' ht' =>
    ⟨[.event (.place t.location) (kind.startEvent t.text)], .body t.text, rfl, ?_, h⟩
  cases t'
  cases ht'
  cases kind <;> rfl

lemma opening {name : String} (h : Reads (.body name) symbols es) :
    Reads .top (⟨.identifier, name⟩ :: markSymbol "\x7b" :: symbols) (.startBlock name :: es) := by
  refine step [] fun t ht => ⟨[], .header .block t, rfl, ?_, ?_⟩
  all_goals
    cases t
    cases ht
  · rfl
  · exact header h

lemma macroOpening {name : String} (h : Reads (.body name) symbols es) :
    Reads .top (⟨.keyword, "macro"⟩ :: ⟨.identifier, name⟩ :: markSymbol "\x7b" :: symbols)
      (.startMacro name :: es) := by
  refine step [] fun t ht => ⟨[], .macroName, rfl, ?_, ?_⟩
  · cases t
    cases ht
    rfl
  · refine step [] fun t ht => ⟨[], .header .macroDef t, rfl, ?_, ?_⟩
    all_goals
      cases t
      cases ht
    · rfl
    · exact header h

lemma closing (h : Reads .top symbols es) :
    Reads (.body container) (markSymbol "\x7d" :: symbols) (.close :: es) := by
  refine step [.close] fun t ht =>
    ⟨[.event (.place t.location) .close], .top, rfl, ?_, h⟩
  cases t
  cases ht
  rfl

lemma register {r : Register} {text : String} (hr : Register.ofName? text = some r)
    (h : Reads (.arguments container) symbols es) :
    Reads (.body container) (⟨.identifier, text⟩ :: symbols) (.select r.address :: es) := by
  refine step [.select r.address] fun t ht =>
    ⟨[.event (.place t.location) (.select r.address)], .arguments container, rfl, ?_, h⟩
  cases t
  cases ht
  simp [ScriptState.step, ScriptState.stepBody, Token.isMark, hr, ScriptState.emit]

lemma statementEnd (h : Reads (.body container) symbols es) :
    Reads (.arguments container) (markSymbol ";" :: symbols) es := by
  refine step [] fun t ht => ⟨[], .body container, rfl, ?_, h⟩
  cases t
  cases ht
  rfl

lemma modifier {m : Modifier} {text : String} (hm : Modifier.ofName? text = some m)
    (h : Reads (.arguments container) symbols es) :
    Reads (.arguments container) (⟨.identifier, text⟩ :: symbols) (.modify m :: es) := by
  refine step [.modify m] fun t ht =>
    ⟨[.event (.place t.location) (.modify m)], .arguments container, rfl, ?_, h⟩
  cases t
  cases ht
  simp [ScriptState.step, ScriptState.stepArguments, Token.isMark, hm, ScriptState.emit]

/-! ## Operands -/

/-- The symbol behind a group is read as one behind an argument.  It cannot be a comma: that would
continue the group, but is no argument. -/
lemma behindGroup {first : Token} {texts : List String} {v : Operand}
    (hv : ScriptState.groupValue texts = .ok v) (hne : symbols ≠ [])
    (h : Reads (.arguments container) symbols es) :
    Reads (.group .argument container first texts) symbols (.push v :: es) := by
  intro tokens htokens
  obtain ⟨items, hitems, hread⟩ := h tokens htokens
  cases tokens with
  | nil => exact absurd htokens.symm hne
  | cons t tokens =>
      refine ⟨.event (.place first.location) (.push v) :: items, by simp [hitems], ?_⟩
      simp only [List.map_cons, readScriptFrom, ScriptState.step] at hread ⊢
      by_cases hcomma : t.isMark "," = true
      · -- Behind an argument a comma is a misfit.
        obtain ⟨kind, text, location⟩ := t
        simp only [Token.isMark, Bool.and_eq_true, decide_eq_true_eq] at hcomma
        obtain ⟨rfl, rfl⟩ := hcomma
        simp [ScriptState.stepArguments, Token.isMark, ScriptState.misfit, ScriptState.stop]
          at hread
      · rw [if_neg hcomma, ScriptState.stepBehindGroup, hv]
        cases hnext : (ScriptState.stepArguments container t).next with
        | error f => simp [hnext] at hread
        | ok s' =>
            simp only [hnext] at hread ⊢
            rw [readScriptFrom_eq] at hread ⊢
            simp only [Trace.mk.injEq] at hread ⊢
            refine ⟨?_, hread.2⟩
            rw [← hread.1]
            simp

/-- The numbers behind the first one of a group. -/
lemma components {use : GroupUse} {first : Token} {texts : List String} (more : List String)
    (h : Reads (.group use container first (more.reverse ++ texts)) symbols es) :
    Reads (.group use container first texts) (moreNumbers more ++ symbols) es := by
  induction more generalizing texts with
  | nil => exact h
  | cons text more ih =>
      rw [List.reverse_cons, List.append_assoc, List.singleton_append] at h
      refine step [] fun t ht => ⟨[], .component use container first texts, rfl, ?_, ?_⟩
      · cases t
        cases ht
        rfl
      · refine step [] fun t' ht' =>
          ⟨[], .group use container first (text :: texts), rfl, ?_, ih h⟩
        cases t'
        cases ht'
        rfl

/-- An operand, from its numbers. -/
lemma numbers {text : String} {texts : List String} {v : Operand}
    (hv : ScriptState.groupValue (text :: texts).reverse = .ok v) (hne : symbols ≠ [])
    (h : Reads (.arguments container) symbols es) :
    Reads (.arguments container) (numberSymbol text :: (moreNumbers texts ++ symbols))
      (.push v :: es) := by
  rw [List.reverse_cons] at hv
  refine step [] fun t ht =>
    ⟨[], .group .argument container t [text], rfl, ?_, components texts (behindGroup hv hne h)⟩
  cases t
  cases ht
  rfl

/-- An operand, from its cells. -/
lemma operand {v : Operand} {c : Cell} {cells : List Cell} (hv : v.cells = c :: cells)
    (hne : symbols ≠ []) (h : Reads (.arguments container) symbols es) :
    Reads (.arguments container)
      (cellSymbol c :: (cells.flatMap (fun c => [markSymbol ",", cellSymbol c]) ++ symbols))
      (.push v :: es) := by
  have hvalue : ScriptState.groupValue ((c :: cells).map renderCell).reverse = .ok v := by
    rw [ScriptState.groupValue, List.reverse_reverse, ← hv]
    exact Operand.read_render v
  have hreads := numbers hvalue hne h
  rwa [moreNumbers, List.flatMap_map] at hreads

/-! ## Insertions -/

lemma insertion {name : String} (hname : Register.ofName? name = none)
    (h : ∀ head : Token, head.text = name → Reads (.insertion container head) symbols es) :
    Reads (.body container) (⟨.identifier, name⟩ :: symbols) es := by
  refine step [] fun t ht => ⟨[], .insertion container t, rfl, ?_, ?_⟩
  all_goals
    cases t
    cases ht
  · simp [ScriptState.step, ScriptState.stepBody, Token.isMark, hname, ScriptState.goto]
  · exact h _ rfl

lemma insertionEnd {head : Token} (h : Reads (.body container) symbols es) :
    Reads (.insertion container head) (markSymbol ";" :: symbols)
      (.insert head.text none :: es) := by
  refine step [.insert head.text none] fun t ht =>
    ⟨[.event (.place head.location) (.insert head.text none)], .body container, rfl, ?_, h⟩
  cases t
  cases ht
  rfl

/-- An offset, from its numbers. -/
lemma offset {head : Token} {text : String} {texts : List String} {off : Vec2}
    (hv : ScriptState.groupValue (text :: texts).reverse = .ok (.vec2 off))
    (h : Reads (.body container) symbols es) :
    Reads (.insertion container head)
      (numberSymbol text :: (moreNumbers texts ++ markSymbol ";" :: symbols))
      (.insert head.text (some off) :: es) := by
  rw [List.reverse_cons] at hv
  refine step [] fun t ht => ⟨[], .group (.offset head) container t [text], rfl, ?_,
    components texts (step [.insert head.text (some off)] fun t' ht' =>
      ⟨[.event (.place head.location) (.insert head.text (some off))], .body container, rfl, ?_,
        h⟩)⟩
  · cases t
    cases ht
    rfl
  · cases t'
    cases ht'
    simp [ScriptState.step, ScriptState.stepBehindGroup, ScriptState.stepInsertionEnd, hv,
      Token.isMark, ScriptState.emit]

end Reads

/-! ## What one token can do -/

namespace ScriptState

/-- The moves without a fault, each with the events that it delivers. -/
inductive Moves : ScriptState → Token → List Event → ScriptState → Prop
  | finish {t : Token} (ht : t.kind = .endOfInput) : Moves top t [] finished
  | keyword {t : Token} (ht : t.kind = .keyword) : Moves top t [] macroName
  | blockName {t : Token} (ht : t.kind = .identifier) : Moves top t [] (header .block t)
  | macroName {t : Token} (ht : t.kind = .identifier) : Moves macroName t [] (header .macroDef t)
  | opening {kind : ContainerKind} {name t : Token} (ht : t.symbol = markSymbol "\x7b") :
      Moves (header kind name) t [kind.startEvent name.text] (body name.text)
  | closing {container : String} {t : Token} (ht : t.symbol = markSymbol "\x7d") :
      Moves (body container) t [.close] top
  | register {container : String} {t : Token} {r : Register} (ht : t.kind = .identifier)
      (hr : Register.ofName? t.text = some r) :
      Moves (body container) t [.select r.address] (arguments container)
  | head {container : String} {t : Token} (ht : t.kind = .identifier)
      (hname : Register.ofName? t.text = none) :
      Moves (body container) t [] (insertion container t)
  | statementEnd {container : String} {t : Token} (ht : t.symbol = markSymbol ";") :
      Moves (arguments container) t [] (body container)
  | number {container : String} {t : Token} (ht : t.kind = .number) :
      Moves (arguments container) t [] (group .argument container t [t.text])
  | modifier {container : String} {t : Token} {m : Modifier} (ht : t.kind = .identifier)
      (hm : Modifier.ofName? t.text = some m) :
      Moves (arguments container) t [.modify m] (arguments container)
  | comma {use : GroupUse} {container : String} {first t : Token} {texts : List String}
      (ht : t.symbol = markSymbol ",") :
      Moves (group use container first texts) t [] (component use container first texts)
  | component {use : GroupUse} {container : String} {first t : Token} {texts : List String}
      (ht : t.kind = .number) :
      Moves (component use container first texts) t [] (group use container first (t.text :: texts))
  | behindOperand {container : String} {first t : Token} {texts : List String} {v : Operand}
      {es : List Event} {s : ScriptState} (hv : groupValue texts = .ok v)
      (h : Moves (arguments container) t es s) :
      Moves (group .argument container first texts) t (.push v :: es) s
  | behindOffset {container : String} {head first t : Token} {texts : List String} {off : Vec2}
      (hv : groupValue texts = .ok (.vec2 off)) (ht : t.symbol = markSymbol ";") :
      Moves (group (.offset head) container first texts) t [.insert head.text (some off)]
        (body container)
  | insertionEnd {container : String} {head t : Token} (ht : t.symbol = markSymbol ";") :
      Moves (insertion container head) t [.insert head.text none] (body container)
  | offset {container : String} {head t : Token} (ht : t.kind = .number) :
      Moves (insertion container head) t [] (group (.offset head) container t [t.text])
  | idle {t : Token} : Moves finished t [] finished

/-- What can come of a token: a move, or a fault behind which at most an operand is still delivered.
Neither leaves a remark. -/
def Outcome (s : ScriptState) (t : Token) (move : ScriptMove) : Prop :=
  ∃ es, move.events.map TraceItem.event? = es.map some ∧
    match move.next with
    | .ok s' => Moves s t es s'
    | .error _ => ∀ e ∈ es, ∃ v, e = .push v

variable {s s' : ScriptState} {t : Token}

lemma outcome_goto (h : Moves s t [] s') : Outcome s t (goto s') := ⟨[], rfl, h⟩

lemma outcome_emit {blamed : Token} {e : Event} (h : Moves s t [e] s') :
    Outcome s t (emit blamed e s') := ⟨[e], rfl, h⟩

lemma outcome_stop (blamed : Token) (cause : Fault) : Outcome s t (stop blamed cause) :=
  ⟨[], rfl, by simp [stop]⟩

lemma symbol_eq_of_isMark {mark : String} (h : t.isMark mark = true) :
    t.symbol = markSymbol mark := by
  simp only [Token.isMark, Bool.and_eq_true, decide_eq_true_eq] at h
  rw [Token.symbol, h.1, h.2, markSymbol]

lemma outcome_stepArguments (container : String) (t : Token) :
    Outcome (arguments container) t (stepArguments container t) := by
  rw [stepArguments.eq_def]
  split_ifs with hmark
  · exact outcome_goto (.statementEnd (symbol_eq_of_isMark hmark))
  · split
    · rename_i hkind
      exact outcome_goto (.number hkind)
    · rename_i hkind
      split
      · rename_i hm
        exact outcome_emit (.modifier hkind hm)
      · exact outcome_stop _ _
    · exact outcome_stop _ _

lemma outcome_stepBehindGroup (use : GroupUse) (container : String) (first : Token)
    (texts : List String) (t : Token) :
    Outcome (group use container first texts) t
      (stepBehindGroup use container first texts t) := by
  rw [stepBehindGroup.eq_def]
  split
  · exact outcome_stop _ _
  · rename_i v hv
    split
    · obtain ⟨es, hes, hnext⟩ := outcome_stepArguments container t
      refine ⟨.push v :: es, by simp [hes, TraceItem.event?], ?_⟩
      dsimp only
      cases hmove : (stepArguments container t).next with
      | ok s' =>
          rw [hmove] at hnext
          exact .behindOperand hv hnext
      | error f =>
          rw [hmove] at hnext
          exact List.forall_mem_cons.mpr ⟨⟨v, rfl⟩, hnext⟩
    · split
      · rw [stepInsertionEnd]
        split_ifs with hmark
        · exact outcome_emit (.behindOffset hv (symbol_eq_of_isMark hmark))
        · exact outcome_stop _ _
      · exact outcome_stop _ _

/-- **One token**: the moves are all that it can do. -/
theorem outcome_step (s : ScriptState) (t : Token) : Outcome s t (s.step t) := by
  cases s with
  | top =>
      rw [step, stepTop.eq_def]
      split
      · rename_i hkind
        exact outcome_goto (.finish hkind)
      · rename_i hkind
        exact outcome_goto (.keyword hkind)
      · rename_i hkind
        exact outcome_goto (.blockName hkind)
      · exact outcome_stop _ _
  | macroName =>
      rw [step]
      split_ifs with hkind
      · exact outcome_goto (.macroName hkind)
      · exact outcome_stop _ _
  | header kind name =>
      rw [step.eq_def]
      dsimp only
      split_ifs with hmark
      · have hmoves : Moves (header kind name) t [kind.startEvent name.text] (body name.text) :=
          .opening (symbol_eq_of_isMark hmark)
        cases kind <;> exact outcome_emit hmoves
      · exact outcome_stop _ _
  | body container =>
      rw [step, stepBody.eq_def]
      split_ifs with hmark
      · exact outcome_emit (.closing (symbol_eq_of_isMark hmark))
      · split
        · exact outcome_stop _ _
        · rename_i hkind
          split
          · rename_i hr
            exact outcome_emit (.register hkind hr)
          · rename_i hr
            exact outcome_goto (.head hkind hr)
        · exact outcome_stop _ _
  | arguments container => exact outcome_stepArguments container t
  | group use container first texts =>
      rw [step]
      split_ifs with hmark
      · exact outcome_goto (.comma (symbol_eq_of_isMark hmark))
      · exact outcome_stepBehindGroup _ _ _ _ _
  | component use container first texts =>
      rw [step]
      split_ifs with hkind
      · exact outcome_goto (.component hkind)
      · exact outcome_stop _ _
  | insertion container head =>
      rw [step]
      split_ifs with hmark hkind
      · exact outcome_emit (.insertionEnd (symbol_eq_of_isMark hmark))
      · exact outcome_goto (.offset hkind)
      · exact outcome_stop _ _
  | finished => exact outcome_goto .idle

end ScriptState

/-! ## Names -/

namespace ScriptState

/-- A state that is behind the name of a container is behind a name. -/
def Named : ScriptState → Prop
  | header _ t => IsName t.text
  | _ => True

/-- Only the opening mark opens a block, and only an identifier can stand before it. -/
lemma Moves.named {s s' : ScriptState} {t : Token} {es : List Event} (h : Moves s t es s')
    (hs : s.Named) (ht : t.kind = .identifier → IsName t.text) :
    s'.Named ∧ ∀ name, .startBlock name ∈ es → IsName name := by
  induction h with
  | blockName hkind => exact ⟨ht hkind, by simp⟩
  | macroName hkind => exact ⟨ht hkind, by simp⟩
  | @opening kind =>
      refine ⟨trivial, fun name hname => ?_⟩
      cases kind with
      | block =>
          obtain rfl := Event.startBlock.inj (List.mem_singleton.mp hname)
          exact hs
      | macroDef => simp [ContainerKind.startEvent] at hname
  | behindOperand _ _ ih =>
      obtain ⟨hs', hnames⟩ := ih trivial ht
      exact ⟨hs', fun name hname => hnames name (by simpa using hname)⟩
  | _ => exact ⟨trivial, by simp⟩

lemma isName_of_startBlock_mem_step {s : ScriptState} (hs : s.Named) {t : Token}
    (ht : t.kind = .identifier → IsName t.text) :
    (∀ s', (s.step t).next = .ok s' → s'.Named) ∧
      ∀ name, Event.startBlock name ∈ TraceItem.events (s.step t).events → IsName name := by
  obtain ⟨es, hes, hnext⟩ := outcome_step s t
  rw [TraceItem.events_of_map hes]
  cases hmove : (s.step t).next with
  | error f =>
      rw [hmove] at hnext
      refine ⟨by simp, fun name hname => ?_⟩
      obtain ⟨v, hv⟩ := hnext _ hname
      cases hv
  | ok s' =>
      rw [hmove] at hnext
      obtain ⟨hs', hnames⟩ := hnext.named hs ht
      refine ⟨?_, hnames⟩
      rintro _ ⟨⟩
      exact hs'

end ScriptState

lemma isName_of_startBlock_mem_readScriptFrom {s : ScriptState} (hs : s.Named)
    {lexemes : List (Except ScanError Token)}
    (hlexemes : ∀ t : Token, .ok t ∈ lexemes → t.kind = .identifier → IsName t.text)
    {name : String} (h : Event.startBlock name ∈ (readScriptFrom s [] lexemes).events) :
    IsName name := by
  induction lexemes generalizing s with
  | nil => simp [readScriptFrom, Trace.events] at h
  | cons lexeme lexemes ih =>
      cases lexeme with
      | error e => simp [readScriptFrom, Trace.events] at h
      | ok t =>
          obtain ⟨hnext, hnames⟩ :=
            ScriptState.isName_of_startBlock_mem_step hs (hlexemes t (by simp))
          simp only [readScriptFrom] at h
          cases hmove : (s.step t).next with
          | error f =>
              simp only [hmove, List.append_nil, List.reverse_reverse, Trace.events] at h
              exact hnames name h
          | ok s' =>
              simp only [hmove] at h
              rw [readScriptFrom_eq] at h
              simp only [Trace.events, List.append_nil, List.reverse_reverse,
                TraceItem.events_append, List.mem_append] at h
              rcases h with h | h
              · exact hnames name h
              · exact ih (hnext s' hmove) (fun t ht => hlexemes t (by simp [ht])) h

/-- **Every block of a script has a name that can be read.** -/
theorem isName_of_startBlock_mem {s : Source} {name : String}
    (h : Event.startBlock name ∈ s.trace.events) : IsName name :=
  isName_of_startBlock_mem_readScriptFrom (s := .top) trivial
    (fun _ ht => isName_of_mem_lexemesFrom ht) h

/-! ## Evaluating a script -/

/-- The trace of a script in a form that can be evaluated. -/
def Source.evaluated (s : Source) : Trace :=
  readScript (lexemesWithin s.name s.ending (s.text.length + 1) 1 (Cursor.start s.text))

lemma Source.trace_eq_evaluated (s : Source) : s.trace = s.evaluated := by
  rw [Source.trace, Source.lexemes, evaluated,
    lexemesFrom_eq_lexemesWithin s.name s.ending (Nat.lt_succ_self s.text.length)]

lemma compile_of_evaluated {passes : Passes} {s : Source} {bs : List Block}
    (hfault : s.evaluated.fault.isNone = true)
    (hrun : (Machine.run passes {} s.evaluated.events).map Prod.snd = some bs) :
    (compile passes false s).result = .ok bs := by
  obtain ⟨⟨m, bs'⟩, haccepted, rfl⟩ := Option.map_eq_some_iff.mp hrun
  refine compile_eq_ok_iff.mpr ⟨?_, ⟨m, ?_⟩, by simp⟩
  · rw [s.trace_eq_evaluated]
    exact Option.isNone_iff_eq_none.mp hfault
  · rw [s.trace_eq_evaluated]
    exact haccepted

end RegisterScript
