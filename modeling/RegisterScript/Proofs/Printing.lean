import RegisterScript.Proofs.Emission
import RegisterScript.Proofs.Reading
import RegisterScript.Proofs.Rebuilding

/-!
# Printed blocks read back

A block is printed as a script, and this file follows the printed text through the scanner and the
automaton.  `Delivers s cs es` joins the two: the characters `cs`, read from the state `s` to the
end, deliver the events `es`.  Pieces of text are put in front one at a time: an argument, a
statement, a block.

What can be printed at all: `Write.Named` is needed for writes, `IsName` for blocks.  The result is
`Delivers.block`, and for a whole file `trace_printed`: what comes out are the events that rebuild
each block from its writes, as a packet stream would deliver them.
-/

namespace RegisterScript

/-- The characters, read from the state to the end, deliver these events. -/
def Delivers (s : ScriptState) (cs : List Char) (es : List Event) : Prop :=
  ∃ symbols, Scans cs symbols ∧ Reads s symbols es

/-! ## What can be printed -/

/-- The text of an argument. -/
def Argument.text : Argument → String
  | operand v => v.render
  | modifier m => m.name

/-- An argument whose text reads back: a modifier has to have a name. -/
def Argument.Readable : Argument → Prop
  | operand _ => True
  | modifier m => IsName m.name ∧ Modifier.ofName? m.name = some m

lemma Argument.readable_modifier {m : Modifier} (hlow : 1 ≤ m.code) (hhigh : m.code ≤ 18) :
    (modifier m).Readable := by
  obtain ⟨code⟩ := m
  change 1 ≤ code at hlow
  change code ≤ 18 at hhigh
  interval_cases code <;> exact ⟨by decide, by decide⟩

lemma Register.isName_scriptName (r : Register) : IsName r.scriptName := by
  cases r <;> decide

lemma Register.ofName?_scriptName (r : Register) : Register.ofName? r.scriptName = some r := by
  cases r <;> decide

lemma PixelFormat.name_ofPixelFormat {p : PixelFormat} (h : p.code.toNat ≤ 2) :
    (Modifier.ofPixelFormat p).name = p.name := by
  obtain ⟨code⟩ := p
  obtain ⟨n, hn, rfl⟩ : ∃ n, n ≤ 2 ∧ code = UInt8.ofNat n := ⟨code.toNat, h, by simp⟩
  interval_cases n <;> decide

lemma TextureFunction.name_ofTextureFunction {t : TextureFunction} (h : t.code.toNat ≤ 3) :
    (Modifier.ofTextureFunction t).name = t.name := by
  obtain ⟨code⟩ := t
  obtain ⟨n, hn, rfl⟩ : ∃ n, n ≤ 3 ∧ code = UInt8.ofNat n := ⟨code.toNat, h, by simp⟩
  interval_cases n <;> decide

lemma Prim.code_of_mem_modifiers {p : Prim} (hp : p.topology.code.toNat ≤ 6) {m : Modifier}
    (hm : m ∈ p.modifiers) : 1 ≤ m.code ∧ m.code ≤ 18 := by
  simp only [Prim.modifiers, List.mem_cons, List.mem_append] at hm
  rcases hm with rfl | ((hm | hm) | hm) | hm
  · simp only [Modifier.ofTopology]
    omega
  all_goals
    split_ifs at hm
    · rw [List.mem_singleton.mp hm]
      decide
    · simp at hm

namespace Write

lemma arguments_ne_nil (w : Write) : w.arguments ≠ [] := by
  cases w <;> simp [arguments, Prim.modifiers]

lemma readable_of_mem_arguments {w : Write} (hw : w.Named) {a : Argument} (ha : a ∈ w.arguments) :
    a.Readable := by
  cases w with
  | prim p =>
      obtain ⟨m, hm, rfl⟩ := List.mem_map.mp ha
      have hcode := Prim.code_of_mem_modifiers (UInt8.le_iff_toNat_le.mp hw) hm
      exact Argument.readable_modifier hcode.1 hcode.2
  | tex0 t =>
      have hformat : t.pixelFormat.code.toNat ≤ 2 := UInt8.le_iff_toNat_le.mp hw.1
      have hfunction : t.function.code.toNat ≤ 3 := UInt8.le_iff_toNat_le.mp hw.2
      simp only [arguments, List.mem_cons, List.not_mem_nil, or_false] at ha
      rcases ha with rfl | rfl | rfl | rfl | rfl
      · trivial
      · trivial
      · trivial
      · refine Argument.readable_modifier ?_ ?_ <;> simp only [Modifier.ofPixelFormat] <;> omega
      · refine Argument.readable_modifier ?_ ?_ <;> simp only [Modifier.ofTextureFunction] <;> omega
  | _ =>
      rw [List.mem_singleton.mp ha]
      trivial

/-- What is printed are the arguments. -/
lemma argumentsText_eq {w : Write} (hw : w.Named) :
    w.argumentsText = " ".intercalate (w.arguments.map Argument.text) := by
  cases w with
  | prim p => rw [argumentsText, arguments, List.map_map]; rfl
  | tex0 t =>
      rw [argumentsText, ← PixelFormat.name_ofPixelFormat (UInt8.le_iff_toNat_le.mp hw.1),
        ← TextureFunction.name_ofTextureFunction (UInt8.le_iff_toNat_le.mp hw.2)]
      rfl
  | _ => exact String.intercalate_singleton.symm

/-- The characters of a statement: the register's name, then every argument behind a blank. -/
lemma toList_statement {w : Write} (hw : w.Named) :
    w.statement.toList
      = w.register.scriptName.toList ++ w.arguments.flatMap fun a => ' ' :: a.text.toList := by
  have hjoin : ∀ arguments : List Argument, arguments ≠ [] →
      ' ' :: [' '].intercalate (arguments.map fun a => a.text.toList)
        = arguments.flatMap fun a => ' ' :: a.text.toList := by
    intro arguments hne
    induction arguments with
    | nil => exact absurd rfl hne
    | cons a arguments ih =>
        cases arguments with
        | nil => simp
        | cons a' arguments =>
            rw [List.flatMap_cons, ← ih (List.cons_ne_nil _ _)]
            simp [List.intercalate_cons_cons]
  rw [statement, argumentsText_eq hw, ← hjoin w.arguments w.arguments_ne_nil]
  simp [String.toList_intercalate, Function.comp_def]

end Write

/-! ## Pieces of text -/

lemma ends_of_head {c : Char} (hname : continuesName c = false) (hpoint : c ≠ '.')
    (cs : List Char) : Ends (c :: cs) := by
  rintro d hd
  cases hd
  exact ⟨hname, hpoint⟩

lemma Scans.cell {cs : List Char} {symbols : List Symbol} (c : Cell) (hends : Ends cs)
    (h : Scans cs symbols) : Scans ((renderCell c).toList ++ cs) (cellSymbol c :: symbols) := by
  have hmagnitude : NumberForm.hexadecimal.Magnitude ('0' :: 'x' :: Text.hexDigits c.toNat) :=
    .hexadecimal (.inl rfl) Nat.toDigits_ne_nil fun _ => isHexDigit_of_mem_hexDigits
  have hspells : NumberForm.hexadecimal.Spells false ('0' :: 'x' :: Text.hexDigits c.toNat) :=
    ⟨_, hmagnitude, rfl⟩
  have hscan := h.number hspells hends
  rw [← List.cons_append, ← toList_renderCell, String.ofList_toList] at hscan
  exact hscan

/-- The cells behind the first one, each behind a comma. -/
lemma Scans.cells {cs : List Char} {symbols : List Symbol} (cells : List Cell) (hends : Ends cs)
    (h : Scans cs symbols) :
    Ends (cells.flatMap (fun c => ',' :: (renderCell c).toList) ++ cs) ∧
    Scans (cells.flatMap (fun c => ',' :: (renderCell c).toList) ++ cs)
      (cells.flatMap (fun c => [markSymbol ",", cellSymbol c]) ++ symbols) := by
  induction cells with
  | nil => exact ⟨hends, h⟩
  | cons c cells ih =>
      refine ⟨ends_of_head (by decide) (by decide) _, ?_⟩
      simp only [List.flatMap_cons, List.append_assoc, List.cons_append, List.nil_append]
      exact (ih.2.cell c ih.1).mark (by decide)

lemma toList_renderCells_cons (c : Cell) (cells : List Cell) :
    (renderCells (c :: cells)).toList
      = (renderCell c).toList ++ cells.flatMap fun c => ',' :: (renderCell c).toList := by
  rw [toList_renderCells]
  induction cells generalizing c with
  | nil => simp
  | cons c' cells ih =>
      have hrest := ih c'
      rw [List.map_cons] at hrest
      rw [List.map_cons, List.map_cons, List.intercalate_cons_cons, hrest]
      simp

namespace Delivers

variable {s : ScriptState} {container : String} {cs : List Char} {es : List Event}

lemma endOfInput : Delivers .top [] [] := ⟨_, .nil, .endOfInput⟩

lemma blank {c : Char} (hc : Text.isBlank c = true) (h : Delivers s cs es) :
    Delivers s (c :: cs) es := by
  obtain ⟨symbols, hscan, hread⟩ := h
  exact ⟨symbols, hscan.blank hc, hread⟩

lemma comment {line : List Char} (hline : '\n' ∉ line) (h : Delivers s cs es) :
    Delivers s (lineComment line ++ cs) es := by
  obtain ⟨symbols, hscan, hread⟩ := h
  exact ⟨symbols, hscan.comment hline, hread⟩

lemma opening {name : String} (hname : IsName name) (h : Delivers (.body name) cs es) :
    Delivers .top (name.toList ++ ' ' :: '\x7b' :: cs) (.startBlock name :: es) := by
  obtain ⟨symbols, hscan, hread⟩ := h
  have hmark := (hscan.mark (by decide : isPunctuation '\x7b' = true)).blank
    (by decide : Text.isBlank ' ' = true)
  exact ⟨_, hmark.name hname (ends_of_head (by decide) (by decide) _), hread.opening⟩

lemma closing (h : Delivers .top cs es) :
    Delivers (.body container) ('\x7d' :: cs) (.close :: es) := by
  obtain ⟨symbols, hscan, hread⟩ := h
  exact ⟨_, hscan.mark (by decide), hread.closing⟩

lemma register (r : Register) (hends : Ends cs) (h : Delivers (.arguments container) cs es) :
    Delivers (.body container) (r.scriptName.toList ++ cs) (.select r.address :: es) := by
  obtain ⟨symbols, hscan, hread⟩ := h
  exact ⟨_, hscan.name r.isName_scriptName hends, hread.register r.ofName?_scriptName⟩

lemma statementEnd (h : Delivers (.body container) cs es) :
    Delivers (.arguments container) (';' :: cs) es := by
  obtain ⟨symbols, hscan, hread⟩ := h
  exact ⟨_, hscan.mark (by decide), hread.statementEnd⟩

lemma argument {a : Argument} (ha : a.Readable) (hends : Ends cs)
    (h : Delivers (.arguments container) cs es) :
    Delivers (.arguments container) (a.text.toList ++ cs) (a.event :: es) := by
  obtain ⟨symbols, hscan, hread⟩ := h
  cases a with
  | modifier m => exact ⟨_, hscan.name ha.1 hends, hread.modifier ha.2⟩
  | operand v =>
      obtain ⟨c, cells, hcells⟩ : ∃ c cells, v.cells = c :: cells := by
        cases v <;> exact ⟨_, _, rfl⟩
      obtain ⟨hends', hscan'⟩ := hscan.cells cells hends
      refine ⟨_, ?_, hread.operand hcells hscan.ne_nil⟩
      rw [Argument.text, Operand.render, hcells, toList_renderCells_cons, List.append_assoc]
      exact hscan'.cell c hends'

/-- Every argument behind a blank. -/
lemma arguments {arguments : List Argument} (harguments : ∀ a ∈ arguments, a.Readable)
    (hends : Ends cs) (h : Delivers (.arguments container) cs es) :
    Ends (arguments.flatMap (fun a => ' ' :: a.text.toList) ++ cs) ∧
    Delivers (.arguments container) (arguments.flatMap (fun a => ' ' :: a.text.toList) ++ cs)
      (arguments.map Argument.event ++ es) := by
  induction arguments with
  | nil => exact ⟨hends, h⟩
  | cons a arguments ih =>
      obtain ⟨hends', h'⟩ := ih fun a' ha' => harguments a' (by simp [ha'])
      refine ⟨ends_of_head (by decide) (by decide) _, ?_⟩
      simp only [List.flatMap_cons, List.append_assoc, List.cons_append]
      exact (h'.argument (harguments a (by simp)) hends').blank (by decide)

/-- The line of a statement. -/
lemma statement {w : Write} (hw : w.Named) (h : Delivers (.body container) cs es) :
    Delivers (.body container) ('\t' :: (w.statement.toList ++ ';' :: '\n' :: cs))
      (w.events ++ es) := by
  have hend : Delivers (.arguments container) (';' :: '\n' :: cs) es :=
    (h.blank (by decide)).statementEnd
  obtain ⟨hends, harguments⟩ := hend.arguments (fun _ => Write.readable_of_mem_arguments hw)
    (ends_of_head (by decide) (by decide) _)
  rw [Write.toList_statement hw, List.append_assoc, Write.events, Write.fillEvents_eq]
  exact (harguments.register w.register hends).blank (by decide)

lemma statements {ws : List Write} (hws : ∀ w ∈ ws, w.Named)
    (h : Delivers (.body container) cs es) :
    Delivers (.body container)
      (ws.flatMap (fun w => '\t' :: (w.statement.toList ++ [';', '\n'])) ++ cs)
      (ws.flatMap Write.events ++ es) := by
  induction ws with
  | nil => exact h
  | cons w ws ih =>
      have hrest := ih fun w' hw' => hws w' (by simp [hw'])
      simpa using hrest.statement (hws w (by simp))

/-- A whole block. -/
lemma block {b : Block} (hname : IsName b.name) (hws : ∀ w ∈ b.unpackedWrites, w.Named)
    (h : Delivers .top cs es) :
    Delivers .top ((ScriptText.render b).toList ++ cs)
      (.startBlock b.name :: (b.unpackedWrites.flatMap Write.events ++ .close :: es)) := by
  have hclosing : Delivers (.body b.name) ('\x7d' :: '\n' :: cs) (.close :: es) :=
    (h.blank (by decide)).closing
  have hopening := ((hclosing.statements hws).blank (by decide : Text.isBlank '\n' = true)).opening
    hname
  have htext : (ScriptText.render b).toList ++ cs = b.name.toList ++ ' ' :: '\x7b' :: '\n' ::
      (b.unpackedWrites.flatMap (fun w => '\t' :: (w.statement.toList ++ [';', '\n']))
        ++ '\x7d' :: '\n' :: cs) := by
    simp [ScriptText.render, String.toList_join, List.flatMap_map]
  rw [htext]
  exact hopening

end Delivers

/-! ## Whole files -/

lemma delivers_blocks {bs : List Block}
    (hbs : ∀ b ∈ bs, IsName b.name ∧ ∀ w ∈ b.unpackedWrites, w.Named) :
    Delivers .top (bs.flatMap fun b => (ScriptText.render b).toList) (bs.flatMap Block.events) := by
  induction bs with
  | nil => exact .endOfInput
  | cons b bs ih =>
      have hb := hbs b (by simp)
      have hrest := ih fun b' hb' => hbs b' (by simp [hb'])
      simpa [Block.events] using hrest.block hb.1 hb.2

/-- The header is a line comment. -/
lemma toList_header : ∃ line, '\n' ∉ line ∧ ScriptText.header.toList = lineComment line :=
  ⟨" Generated with GIFScript version dev".toList, by decide, by decide⟩

/-- What has been delivered is the trace of the text. -/
lemma Delivers.trace {s : Source} {es : List Event} (h : Delivers .top s.text es)
    (hending : s.ending = .complete) : s.trace.fault = none ∧ s.trace.events = es := by
  obtain ⟨symbols, hscan, hread⟩ := h
  obtain ⟨tokens, hsymbols, hlexemes⟩ := hscan s.name {}
  obtain ⟨items, hitems, hscript⟩ := hread tokens hsymbols
  have htrace : s.trace = { items := items } := by
    rw [Source.trace, Source.lexemes, hending, Cursor.start, hlexemes]
    exact hscript
  rw [htrace]
  exact ⟨rfl, hitems⟩

/-- The bytes of a block as it is printed. -/
def scriptBytes (b : Block) : Bytes := Utf8.encode (ScriptText.render b)

lemma decode_printed {bs : List Block} (hne : bs ≠ []) :
    Utf8.decode (printed .script (bs.map scriptBytes))
      = ScriptText.header.toList ++ bs.flatMap fun b => (ScriptText.render b).toList := by
  have hencode : printed .script (bs.map scriptBytes) = Utf8.encode
      (ScriptText.header ++ String.join (bs.map ScriptText.render)) := by
    cases bs with
    | nil => exact absurd rfl hne
    | cons b bs =>
        simp [printed, Format.header, scriptBytes, Utf8.encode, String.toList_join,
          List.flatMap_map, List.flatMap_assoc, List.flatMap_append, List.flatten_eq_flatMap]
  rw [hencode, Utf8.decode_encode]
  simp [String.toList_join, List.flatMap_map]

/-- **Printed blocks read back** to the events that rebuild them. -/
theorem trace_printed (name : String) {bs : List Block}
    (hbs : ∀ b ∈ bs, IsName b.name ∧ ∀ w ∈ b.unpackedWrites, w.Named) :
    let s := Source.ofBytes name (printed .script (bs.map scriptBytes)) .complete
    s.trace.fault = none ∧ s.trace.events = bs.flatMap Block.events := by
  refine Delivers.trace ?_ rfl
  by_cases hne : bs = []
  · subst hne
    have hempty : Utf8.decode [] = [] := by simp [Utf8.decode, Utf8.decodeFrom]
    rw [Source.ofBytes, List.map_nil, printed, hempty]
    exact .endOfInput
  · obtain ⟨line, hline, hheader⟩ := toList_header
    rw [Source.ofBytes, decode_printed hne, hheader]
    exact (delivers_blocks hbs).comment hline

end RegisterScript
