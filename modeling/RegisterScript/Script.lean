import RegisterScript.Trace

/-!
# Scripts

The grammar of scripts has no nesting, so a script is read by an automaton that looks at one token
at a time:

```
file  := item*
item  := ["macro"] NAME "{" statement* "}"
statement := REGISTER argument* ";" | NAME [offset] ";"
argument  := numbers | MODIFIER
numbers   := NUMBER ("," NUMBER)*
```

A register name always starts a register statement; any other name in that place is an insertion,
whose offset is two numbers.  Numbers joined by commas are one operand, and get their value only
once the token behind them is known not to continue them.

* `ScriptState`, what has been read of the present construct.
* `ScriptState.step`, one token.
* `readScript`, a whole stream of lexemes, as a trace.
-/

namespace RegisterScript

/-- What a group of numbers is read for. -/
inductive GroupUse where
  /-- The argument of a register statement. -/
  | argument
  /-- The offset of the insertion that `head` starts. -/
  | offset (head : Token)
  deriving DecidableEq, Repr

/-- How far the reading of a script has come.  Inside a container, `container` is its name. -/
inductive ScriptState where
  /-- Between definitions. -/
  | top
  /-- Behind the keyword. -/
  | macroName
  /-- Behind the name of a container. -/
  | header (kind : ContainerKind) (name : Token)
  /-- Between statements. -/
  | body (container : String)
  /-- Inside a register statement. -/
  | arguments (container : String)
  /-- Behind a number; `texts` are the numbers of the group, newest first. -/
  | group (use : GroupUse) (container : String) (first : Token) (texts : List String)
  /-- Behind a comma. -/
  | component (use : GroupUse) (container : String) (first : Token) (texts : List String)
  /-- Behind the name that starts an insertion. -/
  | insertion (container : String) (head : Token)
  /-- Behind the end of the script. -/
  | finished
  deriving DecidableEq, Repr

/-- What one token leads to: events, and the next state or a fault. -/
structure ScriptMove where
  events : List TraceItem := []
  next : Except Fault ScriptState

namespace ScriptState

/-- Goes on without an event. -/
def goto (s : ScriptState) : ScriptMove := { next := .ok s }

/-- Goes on with one event, blamed on a token. -/
def emit (t : Token) (e : Event) (s : ScriptState) : ScriptMove :=
  { events := [.event (.place t.location) e], next := .ok s }

/-- Stops at a token. -/
def stop (t : Token) (cause : Fault) : ScriptMove := { next := .error (.located t.location cause) }

/-- Stops at a token that does not fit. -/
def misfit (t : Token) (cause : GrammarError) : ScriptMove := stop t (.grammar cause)

/-- A token between definitions. -/
def stepTop (t : Token) : ScriptMove :=
  match t.kind with
  | .endOfInput => goto finished
  | .keyword => goto macroName
  | .identifier => goto (header .block t)
  | _ => misfit t (.notDefinition t)

/-- A token between statements. -/
def stepBody (container : String) (t : Token) : ScriptMove :=
  if t.isMark "\x7d" then emit t .close top
  else match t.kind with
    | .endOfInput => misfit t (.endInside container)
    | .identifier =>
      match Register.ofName? t.text with
      | some r => emit t (.select r.address) (arguments container)
      | none => goto (insertion container t)
    | _ => misfit t (.notStatement t)

/-- A token inside a register statement. -/
def stepArguments (container : String) (t : Token) : ScriptMove :=
  if t.isMark ";" then goto (body container)
  else match t.kind with
    | .number => goto (group .argument container t [t.text])
    | .identifier =>
      match Modifier.ofName? t.text with
      | some m => emit t (.modify m) (arguments container)
      | none => misfit t (.unknownModifier t.text)
    | _ => misfit t (.notArgument t)

/-- The token behind the offset of an insertion. -/
def stepInsertionEnd (container : String) (head : Token) (offset : Vec2) (t : Token) : ScriptMove :=
  if t.isMark ";" then emit head (.insert head.text (some offset)) (body container)
  else misfit t (.notMark ";" t)

/-- The value of a group of numbers, newest first. -/
def groupValue (texts : List String) : Except OperandError Operand :=
  Operand.read (",".intercalate texts.reverse).toList

/-- The token behind a complete group of numbers: the group gets its value, and the token is read
as what follows it. -/
def stepBehindGroup (use : GroupUse) (container : String) (first : Token) (texts : List String)
    (t : Token) : ScriptMove :=
  match groupValue texts with
  | .error cause => stop first (.operand cause)
  | .ok v =>
    match use with
    | .argument =>
      let move := stepArguments container t
      { move with events := .event (.place first.location) (.push v) :: move.events }
    | .offset head =>
      match v with
      | .vec2 offset => stepInsertionEnd container head offset t
      | _ => misfit first (.offsetArity v.arity)

/-- One token. -/
def step : ScriptState → Token → ScriptMove
  | top, t => stepTop t
  | macroName, t =>
    if t.kind = .identifier then goto (header .macroDef t) else misfit t (.notMacroName t)
  | header kind name, t =>
    if t.isMark "\x7b" then
      emit name (match kind with
        | .block => .startBlock name.text
        | .macroDef => .startMacro name.text) (body name.text)
    else misfit t (.notMark "\x7b" t)
  | body container, t => stepBody container t
  | arguments container, t => stepArguments container t
  | group use container first texts, t =>
    if t.isMark "," then goto (component use container first texts)
    else stepBehindGroup use container first texts t
  | component use container first texts, t =>
    if t.kind = .number then goto (group use container first (t.text :: texts))
    else misfit t (.notNumber t)
  | insertion container head, t =>
    if t.isMark ";" then emit head (.insert head.text none) (body container)
    else if t.kind = .number then goto (group (.offset head) container t [t.text])
    else misfit t (.notOffset head.text t)
  | finished, _ => goto finished

end ScriptState

/-- Reads on from a state, behind the items `read` (newest first). -/
def readScriptFrom (s : ScriptState) (read : List TraceItem) :
    List (Except ScanError Token) → Trace
  | [] => { items := read.reverse }
  | .error e :: _ => { items := read.reverse, fault := some (.scan e) }
  | .ok t :: rest =>
    let move := s.step t
    let read := move.events.reverse ++ read
    match move.next with
    | .ok s => readScriptFrom s read rest
    | .error f => { items := read.reverse, fault := some f }

/-- The trace of a stream of lexemes. -/
def readScript (lexemes : List (Except ScanError Token)) : Trace :=
  readScriptFrom .top [] lexemes

/-- The trace of a script. -/
def Source.trace (s : Source) : Trace := readScript (s.lexemes 1)

end RegisterScript
