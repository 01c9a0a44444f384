import RegisterScript.Proofs.Program
import RegisterScript.Proofs.Reading

/-!
# The grammar of scripts

The automaton of scripts never sees more than one token.  What it accepts is a grammar all the same,
and what it delivers are the events of the program that the grammar gives to the tokens.

**Rules.**  One relation for each rule, between symbols and the part of a program that they stand
for; `Repeated` for the star.

**From a derivation to a reading.**  Each rule puts its symbols in front of a reading, so a whole
derivation is read to the events of its program (`reads_file`).

**From a reading to a derivation.**  `ScriptState.Remains` is what has to follow on a state for the
script to be completed.  A move makes of what remains behind it what remains before it
(`Moves.remains`), and so does a run of moves (`remains_of_readScriptFrom`).

Together they say which texts are scripts and what a script delivers (`exists_derivation`,
`trace_of_derivation`), whatever sink it is fed to (`Source.feed_trace_grammar`).
-/

namespace RegisterScript

/-! ## Rules -/

/-- `rule*` -/
inductive Repeated {α : Type} (rule : List Symbol → α → Prop) : List Symbol → List α → Prop
  | nil : Repeated rule [] []
  | cons {front symbols : List Symbol} {a : α} {as : List α} (ha : rule front a)
      (has : Repeated rule symbols as) : Repeated rule (front ++ symbols) (a :: as)

/-- `NUMBER ("," NUMBER)*`, every number having a value. -/
inductive NumbersRule : List Symbol → List Cell → Prop
  | numbers {text : String} {texts : List String} {cells : List Cell}
      (h : List.Forall₂ (fun text c => readCell text.toList = .ok c) (text :: texts) cells) :
      NumbersRule (numberSymbol text :: moreNumbers texts) cells

/-- `NUMBER ("," NUMBER){0,3} | MODIFIER`.  No operand has more than four cells. -/
inductive ArgumentRule : List Symbol → Argument → Prop
  | operand {symbols : List Symbol} {v : Operand} (h : NumbersRule symbols v.cells) :
      ArgumentRule symbols (.operand v)
  | modifier {text : String} {m : Modifier} (h : Modifier.ofName? text = some m) :
      ArgumentRule [⟨.identifier, text⟩] (.modifier m)

/-- `[NUMBER "," NUMBER]` -/
inductive OffsetRule : List Symbol → Option Vec2 → Prop
  | absent : OffsetRule [] none
  | given {symbols : List Symbol} {off : Vec2} (h : NumbersRule symbols [off.x, off.y]) :
      OffsetRule symbols (some off)

/-- `REGISTER argument* ";" | NAME offset ";"`, the name not being that of a register. -/
inductive StatementRule : List Symbol → Statement → Prop
  | register {text : String} {r : Register} {symbols : List Symbol} {arguments : List Argument}
      (hr : Register.ofName? text = some r) (h : Repeated ArgumentRule symbols arguments) :
      StatementRule (⟨.identifier, text⟩ :: (symbols ++ [markSymbol ";"]))
        (.register r.address arguments)
  | insertion {name : String} {symbols : List Symbol} {offset : Option Vec2}
      (hname : Register.ofName? name = none) (h : OffsetRule symbols offset) :
      StatementRule (⟨.identifier, name⟩ :: (symbols ++ [markSymbol ";"]))
        (.insertion name offset)

/-- `["macro"] NAME "{" statement* "}"` -/
inductive DefinitionRule : List Symbol → Definition → Prop
  | block {name : String} {symbols : List Symbol} {body : List Statement}
      (h : Repeated StatementRule symbols body) :
      DefinitionRule
        (⟨.identifier, name⟩ :: markSymbol "\x7b" :: (symbols ++ [markSymbol "\x7d"]))
        ⟨.block, name, body⟩
  | macroDef {name : String} {symbols : List Symbol} {body : List Statement}
      (h : Repeated StatementRule symbols body) :
      DefinitionRule
        (⟨.keyword, "macro"⟩ :: ⟨.identifier, name⟩ :: markSymbol "\x7b"
          :: (symbols ++ [markSymbol "\x7d"]))
        ⟨.macroDef, name, body⟩

/-- `definition*` -/
abbrev FileRule : List Symbol → Program → Prop := Repeated DefinitionRule

/-! ## From a derivation to a reading -/

/-- A group of scanned numbers has the value that its numbers have one by one. -/
lemma groupValue_numbers_iff {text : String} {texts : List String} {v : Operand}
    (h : ∀ symbol ∈ numberSymbol text :: moreNumbers texts, symbol.Scanned) :
    ScriptState.groupValue (text :: texts).reverse = .ok v ↔
      List.Forall₂ (fun text c => readCell text.toList = .ok c) (text :: texts) v.cells := by
  have hcomma : ∀ piece ∈ (text :: texts).map String.toList, ',' ∉ piece := by
    intro piece hpiece
    obtain ⟨t, ht, rfl⟩ := List.mem_map.mp hpiece
    refine h (numberSymbol t) ?_
    rcases List.mem_cons.mp ht with rfl | ht
    · exact List.mem_cons_self
    · exact List.mem_cons_of_mem _ (List.mem_flatMap.mpr ⟨t, ht, by simp⟩)
  rw [ScriptState.groupValue, List.reverse_reverse, String.toList_intercalate]
  exact (Operand.read_intercalate_iff (by simp) hcomma).trans List.forall₂_map_left_iff

section Complete

variable {container : String} {front symbols : List Symbol} {es : List Event}

lemma ArgumentRule.reads {a : Argument} (ha : ArgumentRule front a)
    (hfront : ∀ symbol ∈ front, symbol.Scanned) (hne : symbols ≠ [])
    (h : Reads (.arguments container) symbols es) :
    Reads (.arguments container) (front ++ symbols) (a.event :: es) := by
  cases ha with
  | modifier hm => exact h.modifier hm
  | operand hnumbers =>
      cases hnumbers with
      | numbers hcells => exact h.numbers ((groupValue_numbers_iff hfront).mpr hcells) hne

/-- What a rule does to a reading, its repetition does as well. -/
lemma Repeated.reads {α : Type} {rule : List Symbol → α → Prop} {s : ScriptState}
    (events : α → List Event)
    (hrule : ∀ {front symbols : List Symbol} {a : α} {es : List Event}, rule front a →
      (∀ symbol ∈ front, symbol.Scanned) → symbols ≠ [] → Reads s symbols es →
        Reads s (front ++ symbols) (events a ++ es))
    {as : List α} (has : Repeated rule front as) (hfront : ∀ symbol ∈ front, symbol.Scanned)
    (hne : symbols ≠ []) (h : Reads s symbols es) :
    Reads s (front ++ symbols) (as.flatMap events ++ es) := by
  induction has with
  | nil => exact h
  | cons ha _ ih =>
      rw [List.forall_mem_append] at hfront
      rw [List.append_assoc, List.flatMap_cons, List.append_assoc]
      exact hrule ha hfront.1 (List.append_ne_nil_of_right_ne_nil _ hne) (ih hfront.2)

lemma OffsetRule.reads {offset : Option Vec2} (hoffset : OffsetRule front offset)
    (hfront : ∀ symbol ∈ front, symbol.Scanned) {head : Token}
    (h : Reads (.body container) symbols es) :
    Reads (.insertion container head) (front ++ markSymbol ";" :: symbols)
      (.insert head.text offset :: es) := by
  cases hoffset with
  | absent => exact h.insertionEnd
  | given hnumbers =>
      cases hnumbers with
      | numbers hcells => exact h.offset ((groupValue_numbers_iff hfront).mpr hcells)

lemma StatementRule.reads {st : Statement} (hst : StatementRule front st)
    (hfront : ∀ symbol ∈ front, symbol.Scanned) (h : Reads (.body container) symbols es) :
    Reads (.body container) (front ++ symbols) (st.events ++ es) := by
  cases hst with
  | register hr harguments =>
      simp only [List.forall_mem_cons, List.forall_mem_append] at hfront
      have hreads := harguments.reads (fun a => [a.event]) ArgumentRule.reads hfront.2.1
        (List.cons_ne_nil _ _) h.statementEnd
      simpa [Statement.events, List.map_eq_flatMap] using hreads.register hr
  | insertion hname hoffset =>
      simp only [List.forall_mem_cons, List.forall_mem_append] at hfront
      rw [List.cons_append, List.append_assoc]
      refine Reads.insertion hname fun head hhead => ?_
      rw [← hhead]
      exact hoffset.reads hfront.2.1 h

lemma reads_body {body : List Statement} (hbody : Repeated StatementRule front body)
    (hfront : ∀ symbol ∈ front, symbol.Scanned) (h : Reads .top symbols es) :
    Reads (.body container) (front ++ markSymbol "\x7d" :: symbols)
      (body.flatMap Statement.events ++ .close :: es) :=
  hbody.reads Statement.events (fun hst hscanned _ => hst.reads hscanned) hfront
    (List.cons_ne_nil _ _) h.closing

lemma DefinitionRule.reads {d : Definition} (hd : DefinitionRule front d)
    (hfront : ∀ symbol ∈ front, symbol.Scanned) (h : Reads .top symbols es) :
    Reads .top (front ++ symbols) (d.events ++ es) := by
  cases hd with
  | block hbody =>
      simp only [List.forall_mem_cons, List.forall_mem_append] at hfront
      simpa [Definition.events, ContainerKind.startEvent]
        using (reads_body hbody hfront.2.2.1 h).opening
  | macroDef hbody =>
      simp only [List.forall_mem_cons, List.forall_mem_append] at hfront
      simpa [Definition.events, ContainerKind.startEvent]
        using (reads_body hbody hfront.2.2.2.1 h).macroOpening

/-- **Whatever derives from the grammar is read to the events of its program.** -/
theorem reads_file {p : Program} (hp : FileRule front p)
    (hfront : ∀ symbol ∈ front, symbol.Scanned) :
    Reads .top (front ++ [⟨.endOfInput, ""⟩]) p.events := by
  have hreads := Repeated.reads Definition.events (fun hd hscanned _ => hd.reads hscanned) hp hfront
    (List.cons_ne_nil _ _) Reads.endOfInput
  rwa [List.append_nil] at hreads

end Complete

/-! ## From a reading to a derivation -/

/-- What has to follow on a state for the script to be completed, and the events that it delivers
from there on.  Behind the end of the script nothing more is delivered. -/
inductive ScriptState.Remains : ScriptState → List Symbol → List Event → Prop
  | top {symbols : List Symbol} {p : Program} (hp : FileRule symbols p) :
      Remains top symbols p.events
  | macroName {t : Token} {symbols : List Symbol} {es : List Event}
      (h : Remains (header .macroDef t) symbols es) :
      Remains macroName (⟨.identifier, t.text⟩ :: symbols) es
  | header {kind : ContainerKind} {name : Token} {symbols : List Symbol} {es : List Event}
      (h : Remains (body name.text) symbols es) :
      Remains (header kind name) (markSymbol "\x7b" :: symbols) (kind.startEvent name.text :: es)
  | body {container : String} {front symbols : List Symbol} {statements : List Statement}
      {p : Program} (hbody : Repeated StatementRule front statements) (hp : FileRule symbols p) :
      Remains (body container) (front ++ markSymbol "\x7d" :: symbols)
        (statements.flatMap Statement.events ++ .close :: p.events)
  | arguments {container : String} {front symbols : List Symbol} {arguments : List Argument}
      {es : List Event} (harguments : Repeated ArgumentRule front arguments)
      (h : Remains (body container) symbols es) :
      Remains (.arguments container) (front ++ markSymbol ";" :: symbols)
        (arguments.map Argument.event ++ es)
  | operand {container : String} {first : Token} {texts more : List String} {v : Operand}
      {symbols : List Symbol} {es : List Event}
      (hv : groupValue (more.reverse ++ texts) = .ok v)
      (h : Remains (.arguments container) symbols es) :
      Remains (group .argument container first texts) (moreNumbers more ++ symbols)
        (.push v :: es)
  | offset {container : String} {head first : Token} {texts more : List String} {off : Vec2}
      {symbols : List Symbol} {es : List Event}
      (hv : groupValue (more.reverse ++ texts) = .ok (.vec2 off))
      (h : Remains (body container) symbols es) :
      Remains (group (.offset head) container first texts)
        (moreNumbers more ++ markSymbol ";" :: symbols) (.insert head.text (some off) :: es)
  | component {use : GroupUse} {container : String} {first : Token} {texts : List String}
      {text : String} {symbols : List Symbol} {es : List Event}
      (h : Remains (group use container first (text :: texts)) symbols es) :
      Remains (component use container first texts) (numberSymbol text :: symbols) es
  | insertion {container : String} {head : Token} {front symbols : List Symbol}
      {offset : Option Vec2} {es : List Event} (hoffset : OffsetRule front offset)
      (h : Remains (body container) symbols es) :
      Remains (insertion container head) (front ++ markSymbol ";" :: symbols)
        (.insert head.text offset :: es)
  | finished {symbols : List Symbol} : Remains finished symbols []

namespace ScriptState

variable {s s' : ScriptState} {container : String} {t : Token} {front symbols : List Symbol}
  {es es' : List Event}

lemma Remains.definition {d : Definition} (hd : DefinitionRule front d)
    (h : Remains .top symbols es) : Remains .top (front ++ symbols) (d.events ++ es) := by
  cases h with
  | top hp => exact .top (.cons hd hp)

lemma Remains.statement {st : Statement} (hst : StatementRule front st)
    (h : Remains (.body container) symbols es) :
    Remains (.body container) (front ++ symbols) (st.events ++ es) := by
  cases h with
  | body hbody hp =>
      rw [← List.append_assoc, ← List.append_assoc, ← List.flatMap_cons]
      exact .body (.cons hst hbody) hp

lemma Remains.argument {a : Argument} (ha : ArgumentRule front a)
    (h : Remains (.arguments container) symbols es) :
    Remains (.arguments container) (front ++ symbols) (a.event :: es) := by
  cases h with
  | arguments harguments h =>
      rw [← List.append_assoc, ← List.cons_append, ← List.map_cons]
      exact .arguments (.cons ha harguments) h

lemma Remains.opened_block {name : String} (h : Remains (.body container) symbols es) :
    Remains .top (⟨.identifier, name⟩ :: markSymbol "\x7b" :: symbols)
      (.startBlock name :: es) := by
  cases h with
  | @body _ _ _ statements _ hbody hp =>
      have hd : DefinitionRule _ ⟨.block, name, statements⟩ := .block hbody
      simpa [Definition.events, ContainerKind.startEvent] using (Remains.top hp).definition hd

lemma Remains.opened_macro {name : String} (h : Remains (.body container) symbols es) :
    Remains .top (⟨.keyword, "macro"⟩ :: ⟨.identifier, name⟩ :: markSymbol "\x7b" :: symbols)
      (.startMacro name :: es) := by
  cases h with
  | @body _ _ _ statements _ hbody hp =>
      have hd : DefinitionRule _ ⟨.macroDef, name, statements⟩ := .macroDef hbody
      simpa [Definition.events, ContainerKind.startEvent] using (Remains.top hp).definition hd

/-- One more number of a group. -/
lemma Remains.comma {use : GroupUse} {first : Token} {text : String} {texts : List String}
    (h : Remains (.group use container first (text :: texts)) symbols es) :
    Remains (.group use container first texts) (markSymbol "," :: numberSymbol text :: symbols)
      es := by
  cases h with
  | @operand _ _ _ more v _ _ hv h =>
      have hv' : groupValue ((text :: more).reverse ++ texts) = .ok v := by simpa using hv
      exact .operand hv' h
  | @offset _ _ _ _ more off _ _ hv h =>
      have hv' : groupValue ((text :: more).reverse ++ texts) = .ok (.vec2 off) := by simpa using hv
      exact .offset hv' h

lemma Remains.behindOperand {first : Token} {texts : List String} {v : Operand}
    (hv : groupValue texts = .ok v) (h : Remains (.arguments container) symbols es) :
    Remains (.group .argument container first texts) symbols (.push v :: es) := by
  have hv' : groupValue ([].reverse ++ texts) = .ok v := hv
  exact .operand hv' h

lemma Remains.behindOffset {head first : Token} {texts : List String} {off : Vec2}
    (hv : groupValue texts = .ok (.vec2 off)) (h : Remains (.body container) symbols es) :
    Remains (.group (.offset head) container first texts) (markSymbol ";" :: symbols)
      (.insert head.text (some off) :: es) := by
  have hv' : groupValue ([].reverse ++ texts) = .ok (.vec2 off) := hv
  exact .offset hv' h

/-- A group that has been read to its end derives from the rule for numbers. -/
lemma numbersRule_of_groupValue {text : String} {more : List String} {v : Operand}
    (hscanned : ∀ symbol ∈ numberSymbol text :: (moreNumbers more ++ symbols), symbol.Scanned)
    (hv : groupValue (more.reverse ++ [text]) = .ok v) :
    NumbersRule (numberSymbol text :: moreNumbers more) v.cells := by
  rw [← List.cons_append, List.forall_mem_append] at hscanned
  rw [← List.reverse_cons] at hv
  exact .numbers ((groupValue_numbers_iff hscanned.1).mp hv)

lemma symbol_of_kind {kind : TokenKind} (h : t.kind = kind) : t.symbol = ⟨kind, t.text⟩ := by
  rw [Token.symbol, h]

/-- **One token**: what remains behind a move, with the token in front of it, is what remains before
the move. -/
lemma Moves.remains (hmoves : Moves s t es s')
    (hscanned : ∀ symbol ∈ t.symbol :: symbols, symbol.Scanned) (h : Remains s' symbols es') :
    Remains s (t.symbol :: symbols) (es ++ es') := by
  induction hmoves with
  | @finish t hkind =>
      -- Inside a text the scanner never finds its end.
      have ht := hscanned t.symbol List.mem_cons_self
      rw [symbol_of_kind hkind] at ht
      exact ht.elim
  | @keyword t hkind =>
      -- The automaton goes by the kind alone, but there is only one keyword.
      have ht := hscanned t.symbol List.mem_cons_self
      rw [symbol_of_kind hkind] at ht ⊢
      have htext : t.text = "macro" := String.toList_inj.mp ht
      rw [htext]
      cases h with
      | macroName h =>
          cases h with
          | header h => exact h.opened_macro
  | blockName hkind =>
      rw [symbol_of_kind hkind]
      cases h with
      | header h => exact h.opened_block
  | macroName hkind =>
      rw [symbol_of_kind hkind]
      exact .macroName h
  | opening hmark =>
      rw [hmark]
      exact .header h
  | closing hmark =>
      rw [hmark]
      cases h with
      | top hp => exact .body .nil hp
  | register hkind hr =>
      rw [symbol_of_kind hkind]
      cases h with
      | arguments harguments h =>
          simpa [Statement.events] using h.statement (.register hr harguments)
  | head hkind hname =>
      rw [symbol_of_kind hkind]
      cases h with
      | insertion hoffset h =>
          simpa [Statement.events] using h.statement (.insertion hname hoffset)
  | statementEnd hmark =>
      rw [hmark]
      exact .arguments .nil h
  | number hkind =>
      rw [symbol_of_kind hkind] at hscanned ⊢
      cases h with
      | operand hv h =>
          exact h.argument (.operand (numbersRule_of_groupValue hscanned hv))
  | modifier hkind hm =>
      rw [symbol_of_kind hkind]
      exact h.argument (.modifier hm)
  | comma hmark =>
      rw [hmark]
      cases h with
      | component h => exact h.comma
  | component hkind =>
      rw [symbol_of_kind hkind]
      exact .component h
  | behindOperand hv _ ih =>
      -- The same token ends the group and is read as what follows an argument.
      exact (ih hscanned h).behindOperand hv
  | behindOffset hv hmark =>
      rw [hmark]
      exact h.behindOffset hv
  | insertionEnd hmark =>
      rw [hmark]
      exact .insertion .absent h
  | offset hkind =>
      rw [symbol_of_kind hkind] at hscanned ⊢
      cases h with
      | offset hv h =>
          exact .insertion (.given (numbersRule_of_groupValue hscanned hv)) h
  | idle =>
      cases h
      exact .finished

/-- A state that takes the end of the script expects nothing more. -/
lemma Moves.remains_nil (hmoves : Moves s t es s') (ht : t.symbol = ⟨.endOfInput, ""⟩) :
    Remains s [] es := by
  induction hmoves with
  | finish => exact .top .nil
  | idle => exact .finished
  | behindOperand hv _ ih => exact (ih ht).behindOperand hv
  -- All other moves need a token of another kind.
  | _ => simp_all [Token.symbol, markSymbol]

end ScriptState

/-- The first token of a reading without a fault. -/
lemma exists_moves_of_fault_eq_none {s : ScriptState} {t : Token}
    {lexemes : List (Except ScanError Token)}
    (h : (readScriptFrom s [] (.ok t :: lexemes)).fault = none) :
    ∃ es s', s.Moves t es s' ∧ (readScriptFrom s' [] lexemes).fault = none ∧
      (readScriptFrom s [] (.ok t :: lexemes)).items.map TraceItem.event?
        = es.map some ++ (readScriptFrom s' [] lexemes).items.map TraceItem.event? := by
  obtain ⟨es, hes, hnext⟩ := s.outcome_step t
  cases hmove : (s.step t).next with
  | error f => simp [readScriptFrom, hmove] at h
  | ok s' =>
      rw [hmove] at hnext
      have hstep : s.step t = { events := (s.step t).events, next := .ok s' } := by rw [← hmove]
      rw [readScriptFrom_of_step hstep] at h ⊢
      exact ⟨es, s', hnext, h, by rw [← hes, List.map_append]⟩

/-- **A whole run**: tokens that are read to their end without a fault are what had to follow on the
state, and nothing else than their events is delivered. -/
lemma remains_of_readScriptFrom {s : ScriptState} {tokens : List Token} {last : Token}
    (hlast : last.symbol = ⟨.endOfInput, ""⟩)
    (hscanned : ∀ symbol ∈ tokens.map Token.symbol, symbol.Scanned)
    (h : (readScriptFrom s [] ((tokens ++ [last]).map .ok)).fault = none) :
    ∃ es, (readScriptFrom s [] ((tokens ++ [last]).map .ok)).items.map TraceItem.event?
        = es.map some ∧ s.Remains (tokens.map Token.symbol) es := by
  induction tokens generalizing s with
  | nil =>
      obtain ⟨es, s', hmoves, -, hitems⟩ := exists_moves_of_fault_eq_none h
      exact ⟨es, by simpa [readScriptFrom] using hitems, hmoves.remains_nil hlast⟩
  | cons t tokens ih =>
      obtain ⟨es, s', hmoves, hrest, hitems⟩ := exists_moves_of_fault_eq_none h
      obtain ⟨es', hes', hremains⟩ := ih (fun x hx => hscanned x (by simp [hx])) hrest
      refine ⟨es ++ es', ?_, hmoves.remains hscanned hremains⟩
      have hsplit : (es ++ es').map some = es.map some ++ es'.map some := List.map_append
      rw [hsplit, ← hes']
      exact hitems

/-! ## Scripts -/

/-- A problem of the scanner is never passed over. -/
lemma fault_ne_none_of_error (s : ScriptState) (tokens : List Token) (e : ScanError) :
    (readScriptFrom s [] (tokens.map .ok ++ [.error e])).fault ≠ none := by
  induction tokens generalizing s with
  | nil => simp [readScriptFrom]
  | cons t tokens ih =>
      intro h
      obtain ⟨es, s', -, hrest, -⟩ := exists_moves_of_fault_eq_none h
      exact ih s' hrest

namespace Source

variable {s : Source} {tokens : List Token} {p : Program}

/-- The script is scanned to its end without a problem, and these are its tokens. -/
def ScansTo (s : Source) (tokens : List Token) : Prop :=
  ∃ last : Token, last.symbol = ⟨.endOfInput, ""⟩ ∧ s.lexemes 1 = (tokens ++ [last]).map .ok

lemma ScansTo.scanned (h : s.ScansTo tokens) :
    ∀ symbol ∈ tokens.map Token.symbol, symbol.Scanned := by
  obtain ⟨last, -, hlexemes⟩ := h
  rw [lexemes] at hlexemes
  obtain ⟨tokens', hscanned, ⟨last', -, hlexemes'⟩ | ⟨e, hlexemes'⟩⟩ :=
    lexemesFrom_one_cases s.name s.ending (Cursor.start s.text)
  · rw [hlexemes'] at hlexemes
    have hok : Function.Injective (Except.ok : Token → Except ScanError Token) :=
      fun _ _ => Except.ok.inj
    obtain ⟨rfl, -⟩ := List.append_singleton_inj.mp (List.map_injective_iff.mpr hok hlexemes)
    simpa using hscanned
  · have hmem : Except.error e ∈ (tokens ++ [last]).map (Except.ok : Token → _) := by
      rw [← hlexemes, hlexemes']
      simp
    simp at hmem

/-- **Sound**: a script that is read without a fault derives from the grammar, and its trace holds
the events of the derivation and no remarks. -/
theorem exists_derivation (h : s.trace.fault = none) :
    ∃ tokens p, s.ScansTo tokens ∧ FileRule (tokens.map Token.symbol) p ∧
      s.trace.items.map TraceItem.event? = p.events.map some := by
  rw [trace, readScript, lexemes] at h ⊢
  obtain ⟨tokens, hscanned, ⟨last, hlast, hlexemes⟩ | ⟨e, hlexemes⟩⟩ :=
    lexemesFrom_one_cases s.name s.ending (Cursor.start s.text)
  · rw [hlexemes] at h ⊢
    obtain ⟨es, hitems, hremains⟩ := remains_of_readScriptFrom hlast (by simpa using hscanned) h
    cases hremains with
    | top hp => exact ⟨tokens, _, ⟨last, hlast, hlexemes⟩, hp, hitems⟩
  · rw [hlexemes] at h
    exact absurd h (fault_ne_none_of_error _ _ _)

/-- **Complete**: a script that derives from the grammar is read without a fault. -/
theorem trace_of_derivation (hscans : s.ScansTo tokens)
    (hp : FileRule (tokens.map Token.symbol) p) :
    ∃ items, TraceItem.events items = p.events ∧ s.trace = { items := items } := by
  have hreads := reads_file hp hscans.scanned
  obtain ⟨last, hlast, hlexemes⟩ := hscans
  rw [trace, readScript, hlexemes]
  exact hreads (tokens ++ [last]) (by simp [hlast])

/-- However a script is derived, its trace holds the events of the derivation and no remarks. -/
lemma items_trace (hscans : s.ScansTo tokens) (hp : FileRule (tokens.map Token.symbol) p) :
    s.trace.items.map TraceItem.event? = p.events.map some := by
  obtain ⟨items, hevents, htrace⟩ := trace_of_derivation hscans hp
  obtain ⟨tokens', p', -, -, hitems⟩ := exists_derivation (s := s) (by rw [htrace])
  rw [htrace] at hitems ⊢
  rw [← hevents, TraceItem.events_of_map hitems, hitems]

end Source

/-- **Scripts are what the grammar derives, and mean what it says.**  A sink that accepts every
event takes a script without a fault exactly if its text is scanned without a problem and its tokens
derive from the grammar; it is then given the events of the derived program, in order and nothing
else. -/
theorem Source.feed_trace_grammar {σ : Type} (sink : Sink σ)
    (hsink : ∀ x e, (sink.accept x e).2 = none) (x : σ) (s : Source) :
    ((s.trace.feed sink x).2 = none ↔
        ∃ tokens p, s.ScansTo tokens ∧ FileRule (tokens.map Token.symbol) p) ∧
      ∀ tokens p, s.ScansTo tokens → FileRule (tokens.map Token.symbol) p →
        (s.trace.feed sink x).1 = p.events.foldl (fun x e => (sink.accept x e).1) x := by
  have hfeed : s.trace.feed sink x = ((feedItems sink x s.trace.items).1, s.trace.fault) := by
    have hitems : feedItems sink x s.trace.items = ((feedItems sink x s.trace.items).1, none) :=
      Prod.ext rfl (feedItems_of_accepting hsink x _)
    rw [Trace.feed, hitems]
  rw [hfeed]
  refine ⟨⟨fun hfault => ?_, ?_⟩, fun tokens p hscans hp => ?_⟩
  · obtain ⟨tokens, p, hscans, hp, -⟩ := exists_derivation hfault
    exact ⟨tokens, p, hscans, hp⟩
  · rintro ⟨tokens, p, hscans, hp⟩
    obtain ⟨items, -, htrace⟩ := trace_of_derivation hscans hp
    rw [htrace]
  · exact feedItems_events hsink x (items_trace hscans hp)

/-- A script with a macro that is moved, a comment, and names in any letter case. -/
def Source.moving : Source where
  name := "moving"
  text := "macro dot { XYZ2 1, 0x2,3; } // moved
    moving { dot -1,2; Prim sprite; uv 1.5,2; }".toList

/-- The events of that script. -/
def Source.movingEvents : List Event :=
  [.startMacro "dot", .select 5, .push (.vec3 ⟨1, 2, 3⟩), .close,
    .startBlock "moving", .insert "dot" (some ⟨0xFFFFFFFF, 2⟩),
    .select 0, .modify (.ofTopology .sprite), .select 3, .push (.vec2 ⟨0x3FC00000, 2⟩), .close]

/-- The script derives from the grammar, and a recorder gets what its derivation says. -/
theorem Source.feed_trace_grammar_moving :
    (∀ x e, ((Recorder.sink none .canceled).accept x e).2 = none) ∧
      ∃ tokens p, Source.moving.ScansTo tokens ∧ FileRule (tokens.map Token.symbol) p ∧
        p.events.foldl (fun x e => ((Recorder.sink none .canceled).accept x e).1) {}
          = { events := Source.movingEvents.reverse, count := 11 } := by
  have hsink : ∀ x e, ((Recorder.sink none .canceled).accept x e).2 = none := fun _ _ => rfl
  have hfed : moving.trace.feed (Recorder.sink none .canceled) {}
      = ({ events := movingEvents.reverse, count := 11 }, none) := by
    rw [trace_eq_evaluated]
    decide +kernel
  obtain ⟨hiff, hevents⟩ := feed_trace_grammar (Recorder.sink none .canceled) hsink {} moving
  obtain ⟨tokens, p, hscans, hp⟩ := hiff.mp (by rw [hfed])
  refine ⟨hsink, tokens, p, hscans, hp, ?_⟩
  rw [← hevents tokens p hscans hp, hfed]

end RegisterScript
