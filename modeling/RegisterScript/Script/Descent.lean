import RegisterScript.Script

/-!
# Telling a sink what a script says

A script can also be read as its grammar is written, one function for each construct and no trace
in between.  Every token is scanned when it is wanted, and every event is told to the sink as soon
as it is known.  The sink replies, and the function that told it acts on the reply: a reader that is
refused wants no more tokens and tells no more events.

Each function starts at a place of the text and ends at one behind it, so the reading comes to an
end.

* `Source.ahead`, the token ahead of a place.
* `Sink.tell`, one event on account of a token.
* `Source.tellItem`, `tellContainer`, `tellBody`, `tellStatement`, `tellInsertion` and
  `tellArguments`, the constructs that have something to tell, and `Source.value`, which has not.
* `Source.tell`, a whole script.
-/

namespace RegisterScript

/-! ## What is ahead -/

/-- The token ahead of a place, and the place behind it.  The end of the input stays ahead. -/
structure Ahead (c : Cursor) where
  token : Token
  behind : Cursor
  shorter : token.kind ≠ .endOfInput → behind.rest.length < c.rest.length

/-- A place behind `c`. -/
abbrev Behind (c : Cursor) := { c' : Cursor // c'.rest.length < c.rest.length }

/-- A fault at a token that does not fit. -/
def Token.misfit (t : Token) (cause : GrammarError) : Fault := .located t.location (.grammar cause)

theorem Token.ne_endOfInput_of_isMark {t : Token} {mark : String} (h : t.isMark mark = true) :
    t.kind ≠ .endOfInput := by
  intro hkind
  simp [isMark, hkind] at h

namespace Source

variable (s : Source)

/-- The token ahead of a place.  Looking at it does not use it up. -/
def ahead (c : Cursor) : Except Fault (Ahead c) :=
  match h : next s.name s.ending c with
  | .finished position =>
    .ok { token := ⟨.endOfInput, "", ⟨s.name, position⟩⟩, behind := c, shorter := by simp }
  | .token kind text position rest =>
    .ok {
      token := ⟨kind, String.ofList text, ⟨s.name, position⟩⟩
      behind := rest
      shorter := fun _ => length_of_next_token h }
  | .failed error _ => .error (.scan error)

/-- Takes a mark. -/
def takeMark (mark : String) (c : Cursor) : Except Fault (Behind c) :=
  match s.ahead c with
  | .error f => .error f
  | .ok a =>
    if h : a.token.isMark mark then .ok ⟨a.behind, a.shorter (Token.ne_endOfInput_of_isMark h)⟩
    else .error (a.token.misfit (.notMark mark a.token))

/-- Takes a name; `cause` is what is wrong with any other token. -/
def takeName (cause : Token → GrammarError) (c : Cursor) : Except Fault (Token × Behind c) :=
  match s.ahead c with
  | .error f => .error f
  | .ok a =>
    if h : a.token.kind = .identifier then .ok (a.token, ⟨a.behind, a.shorter (by simp [h])⟩)
    else .error (a.token.misfit (cause a.token))

/-! ## Operands -/

/-- The rest of a group of numbers, behind the numbers `texts` (newest first); all of them, and the
place where the group ends, which is not before `c`. -/
def numbers (texts : List String) (c : Cursor) :
    Except Fault (List String × { c' : Cursor // c'.rest.length ≤ c.rest.length }) :=
  match s.ahead c with
  | .error f => .error f
  | .ok comma =>
    if hcomma : comma.token.isMark "," then
      match s.ahead comma.behind with
      | .error f => .error f
      | .ok number =>
        if hnumber : number.token.kind = .number then
          have hlt : number.behind.rest.length < c.rest.length :=
            Nat.lt_trans (number.shorter (by simp [hnumber]))
              (comma.shorter (Token.ne_endOfInput_of_isMark hcomma))
          match numbers (number.token.text :: texts) number.behind with
          | .error f => .error f
          | .ok (texts, c') => .ok (texts, ⟨c'.1, Nat.le_trans c'.2 (Nat.le_of_lt hlt)⟩)
        else .error (number.token.misfit (.notNumber number.token))
    else .ok (texts, ⟨c, Nat.le_refl _⟩)
termination_by c.rest.length

/-- The operand whose first number stands ahead of `c`. -/
def value {c : Cursor} (first : Ahead c) (hfirst : first.token.kind = .number) :
    Except Fault (Operand × Behind c) :=
  match s.numbers [first.token.text] first.behind with
  | .error f => .error f
  | .ok (texts, c') =>
    match ScriptState.groupValue texts with
    | .error cause => .error (.located first.token.location (.operand cause))
    | .ok v => .ok (v, ⟨c'.1, Nat.lt_of_le_of_lt c'.2 (first.shorter (by simp [hfirst]))⟩)

end Source

/-! ## Telling -/

/-- What reading a construct at `c` comes to: the sink as it then is, and the place behind the
construct or the fault that ended the reading. -/
abbrev Told (σ : Type) (c : Cursor) := σ × Except Fault (Behind c)

/-- What is behind a place is behind those before it. -/
def Told.since {σ : Type} {c c' : Cursor} (h : c'.rest.length < c.rest.length) (told : Told σ c') :
    Told σ c :=
  (told.1, told.2.map fun b => ⟨b.1, Nat.lt_trans b.2 h⟩)

section Telling

variable {σ : Type} (sink : Sink σ) (s : Source)

/-- Tells an event.  A refusal is reported at the place of a token. -/
def Sink.tell (t : Token) (x : σ) (e : Event) : σ × Option Fault :=
  match sink.accept x e with
  | (x, none) => (x, none)
  | (x, some f) => (x, some (.located t.location f))

namespace Source

/-- The arguments of a register statement, up to the mark that ends it. -/
def tellArguments (x : σ) (c : Cursor) : Told σ c :=
  match s.ahead c with
  | .error f => (x, .error f)
  | .ok a =>
    if hend : a.token.isMark ";" then
      (x, .ok ⟨a.behind, a.shorter (Token.ne_endOfInput_of_isMark hend)⟩)
    else if hnumber : a.token.kind = .number then
      match s.value a hnumber with
      | .error f => (x, .error f)
      | .ok (v, c') =>
        have hlt := c'.2
        match sink.tell a.token x (.push v) with
        | (x, some f) => (x, .error f)
        | (x, none) => (tellArguments x c').since hlt
    else if hname : a.token.kind = .identifier then
      have hlt := a.shorter (by simp [hname])
      match Modifier.ofName? a.token.text with
      | none => (x, .error (a.token.misfit (.unknownModifier a.token.text)))
      | some m =>
        match sink.tell a.token x (.modify m) with
        | (x, some f) => (x, .error f)
        | (x, none) => (tellArguments x a.behind).since hlt
    else (x, .error (a.token.misfit (.notArgument a.token)))
termination_by c.rest.length

/-- The rest of an insertion, behind the name `head`. -/
def tellInsertion (head : Token) (x : σ) (c : Cursor) : Told σ c :=
  match s.ahead c with
  | .error f => (x, .error f)
  | .ok a =>
    if hend : a.token.isMark ";" then
      match sink.tell head x (.insert head.text none) with
      | (x, some f) => (x, .error f)
      | (x, none) => (x, .ok ⟨a.behind, a.shorter (Token.ne_endOfInput_of_isMark hend)⟩)
    else if hnumber : a.token.kind = .number then
      match s.value a hnumber with
      | .error f => (x, .error f)
      | .ok (.vec2 offset, c') =>
        match s.takeMark ";" c' with
        | .error f => (x, .error f)
        | .ok b =>
          match sink.tell head x (.insert head.text (some offset)) with
          | (x, some f) => (x, .error f)
          | (x, none) => (x, .ok ⟨b.1, Nat.lt_trans b.2 c'.2⟩)
      | .ok (v, _) => (x, .error (a.token.misfit (.offsetArity v.arity)))
    else (x, .error (a.token.misfit (.notOffset head.text a.token)))

/-- A statement. -/
def tellStatement (x : σ) (c : Cursor) : Told σ c :=
  match s.takeName .notStatement c with
  | .error f => (x, .error f)
  | .ok (head, c') =>
    match Register.ofName? head.text with
    | some r =>
      match sink.tell head x (.select r.address) with
      | (x, some f) => (x, .error f)
      | (x, none) => (s.tellArguments sink x c').since c'.2
    | none => (s.tellInsertion sink head x c').since c'.2

/-- The statements of a container, up to the mark that closes it. -/
def tellBody (container : String) (x : σ) (c : Cursor) : Told σ c :=
  match s.ahead c with
  | .error f => (x, .error f)
  | .ok a =>
    if hclose : a.token.isMark "\x7d" then
      match sink.tell a.token x .close with
      | (x, some f) => (x, .error f)
      | (x, none) => (x, .ok ⟨a.behind, a.shorter (Token.ne_endOfInput_of_isMark hclose)⟩)
    else if a.token.kind = .endOfInput then (x, .error (a.token.misfit (.endInside container)))
    else
      match s.tellStatement sink x c with
      | (x, .error f) => (x, .error f)
      | (x, .ok c') =>
        have hlt := c'.2
        (tellBody container x c').since hlt
termination_by c.rest.length

/-- A definition, from the mark behind the name of its container. -/
def tellContainer (kind : ContainerKind) (name : Token) (x : σ) (c : Cursor) : Told σ c :=
  match s.takeMark "\x7b" c with
  | .error f => (x, .error f)
  | .ok c' =>
    let opening : Event :=
      match kind with
      | .block => .startBlock name.text
      | .macroDef => .startMacro name.text
    match sink.tell name x opening with
    | (x, some f) => (x, .error f)
    | (x, none) => (s.tellBody sink name.text x c').since c'.2

/-- A definition. -/
def tellItem (x : σ) (c : Cursor) : Told σ c :=
  match s.ahead c with
  | .error f => (x, .error f)
  | .ok a =>
    if hkeyword : a.token.kind = .keyword then
      match s.takeName .notMacroName a.behind with
      | .error f => (x, .error f)
      | .ok (name, c') =>
        (s.tellContainer sink .macroDef name x c').since
          (Nat.lt_trans c'.2 (a.shorter (by simp [hkeyword])))
    else if hname : a.token.kind = .identifier then
      (s.tellContainer sink .block a.token x a.behind).since (a.shorter (by simp [hname]))
    else (x, .error (a.token.misfit (.notDefinition a.token)))

/-- Definitions, up to the end of the input. -/
def tellItems (x : σ) (c : Cursor) : σ × Option Fault :=
  match s.ahead c with
  | .error f => (x, some f)
  | .ok a =>
    if a.token.kind = .endOfInput then (x, none)
    else
      match s.tellItem sink x c with
      | (x, .error f) => (x, some f)
      | (x, .ok c') =>
        have _hlt := c'.2
        tellItems x c'
termination_by c.rest.length

/-- A whole script. -/
def tell (x : σ) : σ × Option Fault := s.tellItems sink x (Cursor.start s.text)

end Source

end Telling

end RegisterScript
