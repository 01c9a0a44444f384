import RegisterScript.Proofs.ArrayText

/-!
# Arrays of C, evaluated

An array that is written by name means something only together with the vendor's headers.  Nothing
is known about them but what is documented: the values of the constants, and the bits in which a
macro puts its arguments.

**Toolchains.**  `Toolchain` is all that an array leaves to others, and `Toolchain.Documented` what
is assumed about it.

**Evaluation.**  `evaluate` goes through the lexemes of an array once, with a stack for the calls
that are still open.  A text is an expression with a value (`Means`) if it leads from any state to
the same state with that value.  A call has a value if its arguments have (`Means.of_call`), and an
array has the values of its lines (`evaluate_arrayText`).

**Words by name.**  What is written for a field may be longer than the field; a macro cuts off what
the packet cuts off (`assembled_argumentValues`), and so each line means a pair of words of the
packet (`means_tagText`, `means_entryText`).
-/

namespace RegisterScript.CArray

/-! ## Toolchains -/

/-- What the text of an array leaves to a compiler and its headers. -/
structure Toolchain where
  constant : String → Option Nat
  /-- The value of a macro for the values of its arguments. -/
  expand : String → List Nat → Option Nat
  /-- The value of a shift to the left. -/
  shift : Nat → Nat → Nat

/-- The constants of the headers, with the values that the hardware gives them. -/
def constantTable : List (String × Nat) :=
  [("GS_ENABLE", 1), ("GS_DISABLE", 0),
    ("GS_PRIM_POINT", 0), ("GS_PRIM_LINE", 1), ("GS_PRIM_LINE_STRIP", 2), ("GS_PRIM_TRIANGLE", 3),
    ("GS_PRIM_TRIANGLE_STRIP", 4), ("GS_PRIM_TRIANGLE_FAN", 5), ("GS_PRIM_SPRITE", 6),
    ("GS_PSM_32", 0), ("GS_PSM_24", 1), ("GS_PSM_16", 2),
    ("GS_TFX_MODULATE", 0), ("GS_TFX_DECAL", 1), ("GS_TFX_HIGHLIGHT", 2), ("GS_TFX_HIGHLIGHT2", 3),
    ("GS_REG_PRIM", 0x00), ("GS_REG_RGBAQ", 0x01), ("GS_REG_UV", 0x03), ("GS_REG_XYZ2", 0x05),
    ("GS_REG_TEX0_1", 0x06), ("GS_REG_FOG", 0x0A), ("GS_REG_FOGCOL", 0x3D),
    ("GS_REG_SCISSOR_1", 0x40), ("GS_REG_SIGNAL", 0x60), ("GS_REG_FINISH", 0x61),
    ("GS_REG_LABEL", 0x62), ("GIF_REG_AD", 0x0E)]

/-- The first and the last bit in which an argument stands; nothing is said about the arguments of
features that no script can ask for. -/
abbrev Place := Option (Nat × Nat)

/-- The macro for the word of a register, with the places of its arguments. -/
def setter : Register → String × List Place
  | .prim => ("GS_SET_PRIM", [some (0, 2), some (3, 3), some (4, 4), some (5, 5), none,
      some (7, 7), none, none, none])
  | .rgbaq => ("GS_SET_RGBAQ", [some (0, 7), some (8, 15), some (16, 23), some (24, 31), none])
  | .uv => ("GS_SET_UV", [some (0, 13), some (16, 29)])
  | .xyz2 => ("GS_SET_XYZ", [some (0, 15), some (16, 31), some (32, 63)])
  | .tex0 => ("GS_SET_TEX0", [some (0, 13), some (14, 19), some (20, 25), some (26, 29),
      some (30, 33), some (34, 34), some (35, 36), none, none, none, none, none])
  | .fog => ("GS_SET_FOG", [some (56, 63)])
  | .fogcol => ("GS_SET_FOGCOL", [some (0, 7), some (8, 15), some (16, 23)])
  | .scissor => ("GS_SET_SCISSOR", [some (0, 10), some (16, 26), some (32, 42), some (48, 58)])
  | .signal => ("GS_SET_SIGNAL", [some (0, 31), some (32, 63)])
  | .finish => ("GS_SET_FINISH", [some (0, 31)])
  | .label => ("GS_SET_LABEL", [some (0, 31), some (32, 63)])

/-- The macro for the first word of a tag. -/
def tagSetter : String × List Place :=
  ("GIF_SET_TAG", [some (0, 14), some (15, 15), some (46, 46), some (47, 57), some (58, 59),
    some (60, 63)])

/-- The macros of the headers, as far as arrays need them. -/
def setters : List (String × List Place) := tagSetter :: Register.all.map setter

/-- The word with each value in its place, cut down to the width of the place. -/
def assembled : List Place → List Nat → Nat
  | some (first, last) :: places, v :: values =>
    v % 2 ^ (last + 1 - first) * 2 ^ first + assembled places values
  | none :: places, _ :: values => assembled places values
  | _, _ => 0

/-- There is one value for each place, and none but zeros where there is no place. -/
def Fill (places : List Place) (values : List Nat) : Prop :=
  List.Forall₂ (fun place v => place = none → v = 0) places values

/-- **What is assumed about a toolchain.**  Constants have their values, and macros put their
arguments in their places.  Shifts are computed with 32 bits or more. -/
structure Toolchain.Documented (tc : Toolchain) : Prop where
  constant : ∀ entry ∈ constantTable, tc.constant entry.1 = some entry.2
  expand : ∀ entry ∈ setters, ∀ values, Fill entry.2 values →
    tc.expand entry.1 values = some (assembled entry.2 values)
  shift : ∀ n k, tc.shift n k % 2 ^ 32 = n * 2 ^ k % 2 ^ 32

/-! ## Evaluation -/

/-- What there is of an expression. -/
inductive Pending where
  | nothing
  | name (text : String)
  | value (n : Nat)
  /-- A value in front of a shift. -/
  | shifting (n : Nat)
  deriving DecidableEq, Repr

/-- The value of a finished expression. -/
def Pending.value? (tc : Toolchain) : Pending → Option Nat
  | name text => tc.constant text
  | value n => some n
  | nothing | shifting _ => none

/-- How far an evaluation has come. -/
structure Evaluation where
  pending : Pending := .nothing
  /-- The values of the innermost list, newest first. -/
  values : List Nat := []
  /-- The calls around it, innermost first: the name of each, and the values in front of it. -/
  calls : List (String × List Nat) := []
  deriving Repr

namespace Evaluation

variable (tc : Toolchain)

/-- A number is a value, or it is what the value in front of it is shifted by. -/
def number (s : Evaluation) (n : Nat) : Option Evaluation :=
  match s.pending with
  | .nothing => some { s with pending := .value n }
  | .shifting m => some { s with pending := .value (tc.shift m n) }
  | _ => none

/-- One lexeme. -/
def step (s : Evaluation) : Lexeme → Option Evaluation
  | .decimal n | .hexadecimal n => s.number tc n
  | .name text =>
    match s.pending with
    | .nothing => some { s with pending := .name text }
    | _ => none
  | .shift =>
    match s.pending with
    | .value n => some { s with pending := .shifting n }
    | _ => none
  | .opening =>
    match s.pending with
    | .name text => some { calls := (text, s.values) :: s.calls }
    | _ => none
  | .comma =>
    (s.pending.value? tc).map fun n => { s with pending := .nothing, values := n :: s.values }
  | .closing =>
    match s.calls with
    | [] => none
    | (text, values) :: calls => do
      let n ← s.pending.value? tc
      let v ← tc.expand text (n :: s.values).reverse
      some { pending := .value v, values := values, calls := calls }

/-- All lexemes in a row. -/
def run (s : Evaluation) (ls : List Lexeme) : Option Evaluation := ls.foldlM (step tc) s

end Evaluation

/-- The values in the braces of a text. -/
def evaluate (tc : Toolchain) (text : String) : Option (List Nat) := do
  let ls ← lexemes text
  let s ← Evaluation.run tc {} ls
  if s.pending = .nothing ∧ s.calls = [] then some s.values.reverse else none

section Denoting

variable {tc : Toolchain}

lemma Evaluation.run_append (s : Evaluation) (ls ls' : List Lexeme) :
    run tc s (ls ++ ls') = (run tc s ls).bind fun s' => run tc s' ls' := List.foldlM_append

/-- The lexemes are an expression with the given value, wherever they stand. -/
def Denotes (tc : Toolchain) (ls : List Lexeme) (v : Nat) : Prop :=
  ∃ p : Pending, p.value? tc = some v ∧
    ∀ values calls, Evaluation.run tc ⟨.nothing, values, calls⟩ ls = some ⟨p, values, calls⟩

namespace Denotes

variable {part : List Lexeme} {v : Nat}

/-- Behind a comma the value stands in the list. -/
lemma run_comma (h : Denotes tc part v) (values : List Nat) (calls : List (String × List Nat)) :
    Evaluation.run tc ⟨.nothing, values, calls⟩ (part ++ [.comma])
      = some ⟨.nothing, v :: values, calls⟩ := by
  obtain ⟨p, hp, hrun⟩ := h
  rw [Evaluation.run_append, hrun]
  simp [Evaluation.run, Evaluation.step, hp]

/-- Behind the end of a call its value is there instead. -/
lemma run_closing (h : Denotes tc part v) (values outer : List Nat) (name : String)
    (calls : List (String × List Nat)) :
    Evaluation.run tc ⟨.nothing, values, (name, outer) :: calls⟩ (part ++ [.closing])
      = (tc.expand name (values.reverse ++ [v])).map fun n => ⟨.value n, outer, calls⟩ := by
  obtain ⟨p, hp, hrun⟩ := h
  rw [Evaluation.run_append, hrun]
  cases hexpand : tc.expand name (values.reverse ++ [v]) <;>
    simp [Evaluation.run, Evaluation.step, hp, hexpand]

end Denotes

/-- The arguments of a call, up to its end. -/
lemma Evaluation.run_arguments {parts : List (List Lexeme)} {vs : List Nat} (hne : parts ≠ [])
    (h : List.Forall₂ (Denotes tc) parts vs) (values outer : List Nat) (name : String)
    (calls : List (String × List Nat)) :
    run tc ⟨.nothing, values, (name, outer) :: calls⟩ ([.comma].intercalate parts ++ [.closing])
      = (tc.expand name (values.reverse ++ vs)).map fun n => ⟨.value n, outer, calls⟩ := by
  -- All arguments but the last are ended by a comma, and the last by the call itself.
  induction h generalizing values with
  | nil => exact absurd rfl hne
  | @cons part v parts vs hpart hparts ih =>
      cases hparts with
      | nil => simpa using hpart.run_closing values outer name calls
      | @cons next v' parts vs hnext hparts =>
          have hrest := ih (List.cons_ne_nil _ _) (v :: values)
          rw [List.intercalate_cons_cons, List.append_assoc, run_append, hpart.run_comma,
            Option.bind_some, hrest]
          simp

/-- The text is an expression with the given value. -/
def Means (tc : Toolchain) (text : String) (v : Nat) : Prop :=
  ∃ ls, Reads text.toList ls ∧ Denotes tc ls v

lemma Means.of_decimal (n : Nat) : Means tc (Text.decimal n) n :=
  ⟨_, reads_decimal n, .value n, rfl, fun _ _ => rfl⟩

lemma Means.zero : Means tc "0" 0 := .of_decimal 0

lemma Means.one : Means tc "1" 1 := .of_decimal 1

lemma Means.of_renderCell (c : Cell) : Means tc (renderCell c) c.toNat :=
  ⟨_, reads_renderCell c, .value c.toNat, rfl, fun _ _ => rfl⟩

lemma Means.of_hexPadded (width n : Nat) : Means tc ("0x" ++ Text.hexPadded width n) n :=
  ⟨_, reads_hexPadded width n, .value n, rfl, fun _ _ => rfl⟩

lemma Means.of_shifted (c : Cell) : Means tc (shifted c) (tc.shift c.toNat 4) := by
  have hreads : Reads (shifted c).toList [.decimal c.toNat, .shift, .decimal 4] := by
    have hfour : Reads ['4'] [.decimal 4] := reads_decimal 4
    have hjoin := (reads_decimal c.toNat).append hfour.shift (by simp [Separate, isWordChar])
    simpa [shifted, plain] using hjoin
  exact ⟨_, hreads, .value _, rfl, fun _ _ => rfl⟩

/-- A word that does not begin with a digit. -/
def isIdentifier (text : String) : Bool :=
  text.toList.all isWordChar && text.toList.head?.any fun c => !c.isDigit

lemma reads_identifier {text : String} (h : isIdentifier text = true) :
    Reads text.toList [.name text] := by
  rw [isIdentifier, Bool.and_eq_true, List.all_eq_true] at h
  refine Reads.word h.1 ?_
  cases htext : text.toList with
  | nil => simp [htext] at h
  | cons c word =>
      have hdigit : c.isDigit = false := by simpa [htext] using h.2
      have hzero : c ≠ '0' := by
        rintro rfl
        exact absurd hdigit (by decide)
      have hname : String.ofList (c :: word) = text := by rw [← htext, String.ofList_toList]
      rw [Lexeme.ofWord?, if_neg (by simp [hdigit]), hname]
      all_goals simp [hzero]

lemma Means.of_constant {text : String} {v : Nat} (hname : isIdentifier text = true)
    (h : tc.constant text = some v) : Means tc text v :=
  ⟨_, reads_identifier hname, .name text, h, fun _ _ => rfl⟩

/-- Reading and evaluating can be told apart. -/
lemma exists_parts {texts : List String} {vs : List Nat} (h : List.Forall₂ (Means tc) texts vs) :
    ∃ parts, ReadsEach texts parts ∧ List.Forall₂ (Denotes tc) parts vs := by
  induction h with
  | nil => exact ⟨[], .nil, .nil⟩
  | cons htext _ ih =>
      obtain ⟨part, hreads, hdenotes⟩ := htext
      obtain ⟨parts, hparts, hparts'⟩ := ih
      exact ⟨part :: parts, .cons hreads hparts, .cons hdenotes hparts'⟩

lemma reads_intercalate {texts : List String} {parts : List (List Lexeme)}
    (h : ReadsEach texts parts) :
    Reads ([','].intercalate (texts.map String.toList)) ([.comma].intercalate parts) := by
  induction h with
  | nil => exact Reads.nil
  | @cons text part texts parts htext htexts ih =>
      cases htexts with
      | nil => simpa using htext
      | @cons next part' texts parts hnext htexts =>
          rw [List.map_cons, List.map_cons, List.intercalate_cons_cons, List.intercalate_cons_cons,
            List.append_assoc, List.append_assoc]
          exact htext.join ih

lemma reads_call {name : String} {texts : List String} {parts : List (List Lexeme)}
    (hname : isIdentifier name = true) (h : ReadsEach texts parts) :
    Reads (call name texts).toList
      (.name name :: .opening :: ([.comma].intercalate parts ++ [.closing])) := by
  have hclosing : Reads [')'] [.closing] :=
    Reads.nil.mark (rfl : Lexeme.ofMark? ')' = some [.closing])
  have harguments := ((reads_intercalate h).append hclosing (by simp [Separate, isWordChar])).mark
    (rfl : Lexeme.ofMark? '(' = some [.opening])
  have hcall := (reads_identifier hname).append harguments (by simp [Separate, isWordChar])
  simpa [call, String.toList_intercalate] using hcall

/-- **A call has a value** if its arguments have. -/
theorem Means.of_call {name : String} {texts : List String} {vs : List Nat} {v : Nat}
    (hname : isIdentifier name = true) (hne : texts ≠ []) (h : List.Forall₂ (Means tc) texts vs)
    (hv : tc.expand name vs = some v) : Means tc (call name texts) v := by
  obtain ⟨parts, hreads, hdenotes⟩ := exists_parts h
  have hparts : parts ≠ [] := by
    rintro rfl
    cases hreads
    exact hne rfl
  refine ⟨_, reads_call hname hreads, .value v, rfl, fun values calls => ?_⟩
  have hrun := Evaluation.run_arguments hparts hdenotes [] values name calls
  rw [List.reverse_nil, List.nil_append, hv, Option.map_some] at hrun
  exact hrun

/-! ## Arrays of pairs -/

/-- The line is made of two expressions with the given values. -/
def MeansPair (tc : Toolchain) (line : String) (pair : Nat × Nat) : Prop :=
  ∃ first second, line = first ++ "," ++ second ∧ Means tc first pair.1 ∧ Means tc second pair.2

lemma MeansPair.exists_part {line : String} {pair : Nat × Nat} (h : MeansPair tc line pair) :
    ∃ part, Reads line.toList part ∧ ∀ values,
      Evaluation.run tc ⟨.nothing, values, []⟩ (part ++ [.comma])
        = some ⟨.nothing, pair.2 :: pair.1 :: values, []⟩ := by
  obtain ⟨first, second, rfl, ⟨ls, hreads, hdenotes⟩, ⟨ls', hreads', hdenotes'⟩⟩ := h
  refine ⟨ls ++ .comma :: ls', ?_, fun values => ?_⟩
  · simpa using hreads.join hreads'
  · have hsplit : ls ++ Lexeme.comma :: ls' ++ [Lexeme.comma]
        = ls ++ [Lexeme.comma] ++ (ls' ++ [Lexeme.comma]) := by simp
    rw [hsplit, Evaluation.run_append, hdenotes.run_comma, Option.bind_some, hdenotes'.run_comma]

lemma exists_parts_of_pairs {lines : List String} {pairs : List (Nat × Nat)}
    (h : List.Forall₂ (MeansPair tc) lines pairs) :
    ∃ parts, ReadsEach lines parts ∧ ∀ values,
      Evaluation.run tc ⟨.nothing, values, []⟩ (parts.flatMap (· ++ [Lexeme.comma]))
        = some ⟨.nothing, (pairs.flatMap fun pair => [pair.1, pair.2]).reverse ++ values, []⟩ := by
  induction h with
  | nil => exact ⟨[], .nil, fun _ => rfl⟩
  | cons hline _ ih =>
      obtain ⟨part, hreads, hrun⟩ := hline.exists_part
      obtain ⟨parts, hparts, hruns⟩ := ih
      refine ⟨part :: parts, .cons hreads hparts, fun values => ?_⟩
      rw [List.flatMap_cons, Evaluation.run_append, hrun, Option.bind_some, hruns]
      simp

/-- **An array is evaluated line by line.** -/
theorem evaluate_arrayText {mode : EmitMode} {b : Block} {t : Tag} {pairs : List (Nat × Nat)}
    (h : List.Forall₂ (MeansPair tc) (arrayLines mode b t) pairs) :
    evaluate tc (arrayText mode b t) = some (pairs.flatMap fun pair => [pair.1, pair.2]) := by
  obtain ⟨parts, hreads, hrun⟩ := exists_parts_of_pairs h
  have hstart : Evaluation.run tc {} (parts.flatMap (· ++ [Lexeme.comma])) = _ := hrun []
  simp [evaluate, lexemes_arrayText hreads, hstart]

end Denoting

/-! ## Words by name -/

/-- The values of the arguments that are written for a write. -/
def argumentValues (tc : Toolchain) : Write → List Nat
  | .prim p => [p.topology.code.toNat, Layout.bit p.gouraud, Layout.bit p.texture,
      Layout.bit p.fogging, 0, Layout.bit p.antialiasing, 0, 0, 0]
  | .rgbaq c => [c.x.toNat, c.y.toNat, c.z.toNat, c.w.toNat, 0]
  | .uv c => [tc.shift c.x.toNat 4, tc.shift c.y.toNat 4]
  | .xyz2 p => [tc.shift p.x.toNat 4, tc.shift p.y.toNat 4, p.z.toNat]
  | .tex0 t => t.fields ++ [0, 0, 0, 0, 0]
  | w => w.cells.map UInt32.toNat

lemma fill_argumentValues (tc : Toolchain) (w : Write) :
    Fill (setter w.register).2 (argumentValues tc w) := by
  cases w <;> simp [Fill, setter, Write.register, argumentValues, Tex0.fields, Write.cells]

/-- **A macro makes the word of the packet** from what is written for a write. -/
lemma assembled_argumentValues {tc : Toolchain} (h : tc.Documented) (w : Write) :
    assembled (setter w.register).2 (argumentValues tc w)
      = Layout.pack w.register.layout w.fields := by
  -- Only the lowest bits of a shifted coordinate find room in their place.
  cases w with
  | uv c | xyz2 c =>
      have hx := h.shift c.x.toNat 4
      have hy := h.shift c.y.toNat 4
      simp only [setter, Write.register, argumentValues, assembled, Register.layout, Write.fields,
        Write.cells, Layout.pack, Layout.capacity, List.map_cons, List.map_nil, Nat.pow_eq]
      omega
  | _ =>
      simp only [setter, Write.register, argumentValues, assembled, Register.layout, Write.fields,
        Write.cells, Layout.pack, Layout.capacity, List.map_cons, List.map_nil, Nat.pow_eq,
        Prim.fields, Tex0.fields, List.cons_append, List.nil_append]
      omega

section Documented

variable {tc : Toolchain} (h : tc.Documented)

include h

lemma means_constant {text : String} {v : Nat} (hmem : (text, v) ∈ constantTable) :
    Means tc text v := by
  have hnames : (constantTable.all fun entry => isIdentifier entry.1) = true := by decide +kernel
  exact .of_constant (List.all_eq_true.mp hnames _ hmem) (h.constant _ hmem)

lemma means_call {entry : String × List Place} (hmem : entry ∈ setters) {texts : List String}
    {vs : List Nat} (htexts : List.Forall₂ (Means tc) texts vs) (hfill : Fill entry.2 vs) :
    Means tc (call entry.1 texts) (assembled entry.2 vs) := by
  have hnames : (setters.all fun entry => isIdentifier entry.1) = true := by decide +kernel
  have hplaces : ∀ entry ∈ setters, entry.2 ≠ [] := by decide
  refine .of_call (List.all_eq_true.mp hnames entry hmem) ?_ htexts (h.expand entry hmem vs hfill)
  rintro rfl
  cases htexts
  exact hplaces entry hmem (List.forall₂_nil_right_iff.mp hfill)

lemma means_flagName (flag : Bool) : Means tc (flagName flag) (Layout.bit flag) := by
  cases flag
  · exact means_constant h (by decide)
  · exact means_constant h (by decide)

lemma means_registerName (r : Register) : Means tc (registerName r) r.address.toNat := by
  cases r <;> exact means_constant h (by decide)

lemma means_topologyName {t : Topology} (ht : t.code ≤ Topology.sprite.code) :
    Means tc (topologyName t) t.code.toNat := by
  obtain ⟨code⟩ := t
  have hle : code.toNat ≤ 6 := UInt8.le_iff_toNat_le.mp ht
  rw [topologyName]
  dsimp only
  generalize code.toNat = n at hle
  interval_cases n <;> exact means_constant h (by decide)

lemma means_pixelFormatName {p : PixelFormat} (hp : p.code ≤ PixelFormat.ct16.code) :
    Means tc (pixelFormatName p) p.code.toNat := by
  have hle : p.code.toNat ≤ 2 := UInt8.le_iff_toNat_le.mp hp
  rw [pixelFormatName]
  generalize p.code.toNat = n at hle
  interval_cases n <;> exact means_constant h (by decide)

lemma means_textureFunctionName {t : TextureFunction}
    (ht : t.code ≤ TextureFunction.highlight2.code) :
    Means tc (textureFunctionName t) t.code.toNat := by
  have hle : t.code.toNat ≤ 3 := UInt8.le_iff_toNat_le.mp ht
  rw [textureFunctionName]
  generalize t.code.toNat = n at hle
  interval_cases n <;> exact means_constant h (by decide)

omit h in
lemma setter_mem (r : Register) : setter r ∈ setters := by
  cases r <;> simp [setters, Register.all]

/-- The arguments that are written for a write have values. -/
lemma exists_texts {w : Write} (hw : w.Named) :
    ∃ texts, setWrite w = call (setter w.register).1 texts ∧
      List.Forall₂ (Means tc) texts (argumentValues tc w) := by
  cases w with
  | prim p =>
      exact ⟨_, rfl, .cons (means_topologyName h hw) <| .cons (means_flagName h p.gouraud) <|
        .cons (means_flagName h p.texture) <| .cons (means_flagName h p.fogging) <|
        .cons .zero <| .cons (means_flagName h p.antialiasing) <|
        .cons .zero <| .cons .zero <| .cons .zero .nil⟩
  | rgbaq c =>
      exact ⟨_, rfl, .cons (.of_hexPadded 2 _) <| .cons (.of_hexPadded 2 _) <|
        .cons (.of_hexPadded 2 _) <| .cons (.of_hexPadded 2 _) <| .cons (.of_hexPadded 2 0) .nil⟩
  | uv c => exact ⟨_, rfl, .cons (.of_shifted c.x) <| .cons (.of_shifted c.y) .nil⟩
  | xyz2 p =>
      exact ⟨_, rfl, .cons (.of_shifted p.x) <| .cons (.of_shifted p.y) <|
        .cons (.of_decimal p.z.toNat) .nil⟩
  | tex0 t =>
      have halpha : Means tc (if t.useAlpha then "1" else "0") (Layout.bit t.useAlpha) := by
        cases t.useAlpha
        · exact .zero
        · exact .one
      exact ⟨_, rfl, .cons (.of_renderCell t.base) <| .cons (.of_decimal t.bufferWidth.toNat) <|
        .cons (means_pixelFormatName h hw.1) <| .cons (.of_decimal t.widthLog.toNat) <|
        .cons (.of_decimal t.heightLog.toNat) <| .cons halpha <|
        .cons (means_textureFunctionName h hw.2) <|
        .cons .zero <| .cons .zero <| .cons .zero <| .cons .zero <| .cons .zero .nil⟩
  | fog v => exact ⟨_, rfl, .cons (.of_hexPadded 2 _) .nil⟩
  | fogcol c =>
      exact ⟨_, rfl, .cons (.of_hexPadded 2 _) <| .cons (.of_hexPadded 2 _) <|
        .cons (.of_hexPadded 2 _) .nil⟩
  | scissor r =>
      exact ⟨_, rfl, .cons (.of_decimal _) <| .cons (.of_decimal _) <| .cons (.of_decimal _) <|
        .cons (.of_decimal _) .nil⟩
  | signal i m => exact ⟨_, rfl, .cons (.of_renderCell i) <| .cons (.of_renderCell m) .nil⟩
  | finish v => exact ⟨_, rfl, .cons (.of_renderCell v) .nil⟩
  | label i m => exact ⟨_, rfl, .cons (.of_renderCell i) <| .cons (.of_renderCell m) .nil⟩

/-- **A write by name** is the word of the packet. -/
theorem means_setWrite {w : Write} (hw : w.Named) : Means tc (setWrite w) w.encode.toNat := by
  obtain ⟨texts, hset, htexts⟩ := exists_texts h hw
  rw [hset, Write.toNat_encode, ← assembled_argumentValues h]
  exact means_call h (setter_mem w.register) htexts (fill_argumentValues tc w)

/-- The word of a setting, by name. -/
lemma means_setPrim {p : Prim} (hp : (Write.prim p).Named) : Means tc (setPrim p) p.encode := by
  have hset := means_setWrite h hp
  rw [Write.toNat_encode] at hset
  exact hset

omit h in
lemma assembled_tag (t : Tag) : assembled tagSetter.2 t.fields = t.pack.1.toNat := by
  have hword : t.pack.1.toNat = Layout.pack Tag.layout t.fields :=
    UInt64.toNat_ofNat_of_lt' (Layout.pack_lt Tag.layout t.fields)
  rw [hword]
  simp only [tagSetter, Tag.fields, assembled, Tag.layout, Layout.pack, Layout.capacity, Nat.pow_eq]
  omega

omit h in
lemma fields_header {b : Block} (hlength : b.writes.length ≤ Tag.maxLoops) :
    b.header.fields = [b.writes.length, 1, Layout.bit b.tagPrim.isSome,
      (b.tagPrim.map Prim.encode).getD 0, 0, 1] := by
  have hnloop := Block.toNat_nloop_header hlength
  have hprim := Block.toNat_prim_header hlength
  rw [Tag.fields, hnloop, hprim, Block.header_eq hlength]
  rfl

/-- **A tag by name** is the tag of the packet. -/
theorem means_tagText {b : Block} (hlength : b.writes.length ≤ Tag.maxLoops)
    (hprim : ∀ p ∈ b.tagPrim, (Write.prim p).Named) (t : Tag) :
    MeansPair tc (tagText .defs b t) (b.header.pack.1.toNat, b.header.pack.2.toNat) := by
  have hregs : b.header.pack.2 = UInt64.ofNat Tag.addressData := by
    rw [Tag.pack, Block.header_eq hlength]
  have hdescriptor : Means tc "GIF_REG_AD" b.header.pack.2.toNat := by
    rw [hregs]
    exact means_constant h (by decide)
  -- With or without a setting, two arguments stand in the middle.
  have htag : ∀ setting : List String,
      List.Forall₂ (Means tc) setting
        [Layout.bit b.tagPrim.isSome, (b.tagPrim.map Prim.encode).getD 0] →
      Means tc (call "GIF_SET_TAG" (Text.decimal b.writes.length :: "1" :: (setting ++ ["0", "1"])))
        b.header.pack.1.toNat := by
    intro setting hsetting
    rw [← assembled_tag, fields_header hlength]
    refine means_call h List.mem_cons_self ?_ (by simp [Fill, tagSetter])
    exact .cons (.of_decimal _) <| .cons .one <|
      List.rel_append hsetting (.cons .zero (.cons .one .nil))
  cases hsome : b.tagPrim with
  | none =>
      rw [hsome] at htag
      have htext := htag ["0", "0"] (.cons .zero (.cons .zero .nil))
      refine ⟨_, "GIF_REG_AD", ?_, htext, hdescriptor⟩
      rw [tagText, hsome, String.append_assoc]
      rfl
  | some p =>
      rw [hsome] at htag
      have hset := means_setPrim h (hprim p hsome)
      have htext := htag ["1", setPrim p] (.cons .one (.cons hset .nil))
      refine ⟨_, "GIF_REG_AD", ?_, htext, hdescriptor⟩
      rw [tagText, hsome, String.append_assoc]
      rfl

/-- **An entry by name** is the entry of the packet. -/
theorem means_entryText {w : Write} (hw : w.Named) :
    MeansPair tc (entryText .defs w) (w.encode.toNat, w.register.address.toNat) :=
  ⟨_, _, rfl, means_setWrite h hw, means_registerName h w.register⟩

end Documented

/-- **Both styles say the same.**  A block may have as many writes as a tag can count, and the codes
of its writes have names, that of the setting in the tag included; the cells may be anything.  Then
the array that is written by name has exactly the values that stand in the array of bare numbers,
under any toolchain that follows the documentation; they are the words of the packet. -/
theorem evaluate_defs {tc : Toolchain} (h : tc.Documented) {b : Block}
    (hlength : b.writes.length ≤ Tag.maxLoops) (hnamed : ∀ w ∈ b.unpackedWrites, w.Named) :
    ∃ defs magic words,
      render .defs b = .ok defs ∧ render .magic b = .ok magic ∧ b.words = .ok words ∧
      hexadecimals magic = some (words.map UInt64.toNat) ∧
      evaluate tc defs = some (words.map UInt64.toNat) := by
  have hrender : ∀ mode, render mode b = .ok (arrayText mode b b.header) := by
    intro mode
    rw [render, Block.tag_eq_header hlength]
    rfl
  have hexecuted : ∀ w ∈ b.executed, w.Named := fun w hw =>
    hnamed w (b.executed_perm.mem_iff.mp hw)
  have hprim : ∀ p ∈ b.tagPrim, (Write.prim p).Named := fun p hp =>
    hexecuted _ (by simp [Block.executed, Option.mem_def.mp hp])
  have hwrites : ∀ w ∈ b.writes, w.Named := fun w hw =>
    hexecuted w (by simp [Block.executed, hw])
  have hlines : List.Forall₂ (MeansPair tc) (arrayLines .defs b b.header)
      ((b.header.pack.1.toNat, b.header.pack.2.toNat)
        :: b.writes.map fun w => (w.encode.toNat, w.register.address.toNat)) := by
    refine .cons (means_tagText h hlength hprim b.header) ?_
    rw [List.forall₂_map_left_iff, List.forall₂_map_right_iff]
    exact List.forall₂_same.mpr fun w hw => means_entryText h (hwrites w hw)
  refine ⟨_, _, _, hrender .defs, hrender .magic, Block.words_eq_packetWords hlength, ?_, ?_⟩
  · rw [hexadecimals, lexemes_magic, Option.map_some, filterMap_hexadecimal?]
    rfl
  · rw [evaluate_arrayText hlines]
    simp [Block.packetWords, List.flatMap_map, List.map_flatMap, Block.entryWords]

/-- A toolchain that does what is documented and nothing else, with shifts of 32 bits. -/
def Toolchain.plain : Toolchain where
  constant text := constantTable.lookup text
  expand text values :=
    ((setters.lookup text).filter fun places => values.length = places.length).map fun places =>
      assembled places values
  shift n k := n * 2 ^ k % 2 ^ 32

lemma Toolchain.documented_plain : Toolchain.plain.Documented where
  constant := by decide +kernel
  expand entry hmem values hfill := by
    have hlookup : ∀ entry ∈ setters, setters.lookup entry.1 = some entry.2 := by decide +kernel
    have hlength : values.length = entry.2.length := hfill.length_eq.symm
    simp [plain, hlookup entry hmem, hlength]
  shift n k := Nat.mod_mod _ _

/-- A block with a setting in its tag, and with cells that do not fit their fields. -/
def glow : Block where
  name := "glow"
  tagPrim := some { topology := ⟨4⟩, gouraud := true, antialiasing := true }
  writes := [.rgbaq ⟨0x1FF, 0x80, 0, 0x80⟩, .uv ⟨1025, 2⟩, .xyz2 ⟨4097, 0xFFFFFFFF, 7⟩]

/-- The fields are cut down to their widths in both styles. -/
theorem evaluate_defs_glow :
    ∃ defs, render .defs glow = .ok defs ∧
      evaluate .plain defs
        = some [0x1046400000008003, 0x0E, 0x800080FF, 0x01, 0x200010, 0x03, 0x7FFF00010, 0x05] := by
  obtain ⟨defs, -, words, hdefs, -, hwords, -, hevaluate⟩ :=
    evaluate_defs Toolchain.documented_plain (b := glow) (by decide)
      (by simp [glow, Block.unpackedWrites, Write.Named]; decide)
  have hpacket : glow.words = .ok [0x1046400000008003, 0x0E, 0x800080FF, 0x01, 0x200010, 0x03,
      0x7FFF00010, 0x05] := by decide
  rw [hpacket] at hwords
  cases hwords
  exact ⟨defs, hdefs, hevaluate⟩

end RegisterScript.CArray
