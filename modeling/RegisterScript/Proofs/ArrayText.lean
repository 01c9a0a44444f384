import RegisterScript.Proofs.Emission
import RegisterScript.Proofs.PacketStream

/-!
# Arrays of C, read back

What stands in an array is for a compiler to say.  This file reads as much of the language as an
array needs, so that two outputs can be compared by what they say and not by how they look.

**Lexemes.**  `scan` cuts a text into names, numbers and marks.  A word goes on as long as it can,
so what a text is cut into depends on the character behind it; `Reads` is about a text behind which
no word goes on, and is put together from its parts.

**Arrays.**  `initializer` is what stands in the braces, whatever the name in front of them.  An
array has one line for the tag and one for each write (`lexemes_arrayText`).  In bare numbers these
lines are the words of the packet, and nothing else (`emit_magic`).
-/

namespace RegisterScript.CArray

/-! ## Numbers -/

/-- The number that digits make behind a number, however large it becomes. -/
def numberFrom? (base n : Nat) (digits : List Char) : Option Nat :=
  digits.foldlM (fun n c => (Numeral.digitValue? base c).map (n * base + ·)) n

/-- The number with the given digits, of which there is at least one. -/
def number? (base : Nat) (digits : List Char) : Option Nat :=
  if digits = [] then none else numberFrom? base 0 digits

lemma numberFrom?_append {base n m : Nat} {digits : List Char}
    (h : numberFrom? base n digits = some m) (digits' : List Char) :
    numberFrom? base n (digits ++ digits') = numberFrom? base m digits' := by
  rw [numberFrom?] at h
  rw [numberFrom?, List.foldlM_append, h]
  rfl

lemma digitValue?_digitChar_of_lt {base d : Nat} (hbase : base ≤ 16) (hd : d < base) :
    Numeral.digitValue? base d.digitChar = some d := by
  have hsixteen := digitValue?_digitChar (d := d) (by omega)
  rw [Numeral.digitValue?, Option.filter_eq_some_iff] at hsixteen ⊢
  exact ⟨hsixteen.1, decide_eq_true hd⟩

/-- A number is read from its digits. -/
lemma numberFrom?_toDigits {base : Nat} (hone : 1 < base) (hbase : base ≤ 16) (n : Nat) :
    numberFrom? base 0 (Nat.toDigits base n) = some n := by
  induction n using Nat.strong_induction_on with
  | _ n ih =>
      rw [Nat.toDigits_eq_if hone]
      split_ifs with hn
      · simp [numberFrom?, digitValue?_digitChar_of_lt hbase hn]
      · have hdigit := digitValue?_digitChar_of_lt hbase (Nat.mod_lt n (by omega))
        have hdiv := ih (n / base) (Nat.div_lt_self (by omega) hone)
        rw [numberFrom?_append hdiv]
        simp [numberFrom?, hdigit, Nat.div_add_mod']

lemma number?_toDigits (n : Nat) : number? 10 (Nat.toDigits 10 n) = some n := by
  rw [number?, if_neg Nat.toDigits_ne_nil, numberFrom?_toDigits (by decide) (by decide)]

/-- Zeros in front make no difference. -/
lemma numberFrom?_leftpad (width n : Nat) :
    numberFrom? 16 0 ((Text.hexDigits n).leftpad width '0') = some n := by
  have hzeros : ∀ count, numberFrom? 16 0 (List.replicate count '0') = some 0 := by
    intro count
    induction count with
    | zero => rfl
    | succ count ih => exact ih
  rw [List.leftpad, numberFrom?_append (hzeros _)]
  exact numberFrom?_toDigits (by decide) (by decide) n

/-- No number but zero begins with that digit. -/
lemma eq_zero_of_toDigits {n : Nat} {rest : List Char} (h : Nat.toDigits 10 n = '0' :: rest) :
    n = 0 := by
  induction n using Nat.strong_induction_on generalizing rest with
  | _ n ih =>
      rw [Nat.toDigits_eq_if (by decide)] at h
      split_ifs at h with hn
      · exact digitChar_inj (by omega) (by decide) (List.cons.inj h).1
      · cases hdigits : Nat.toDigits 10 (n / 10) with
        | nil => exact absurd hdigits Nat.toDigits_ne_nil
        | cons c digits =>
            rw [hdigits, List.cons_append, List.cons.injEq] at h
            rw [h.1] at hdigits
            have hdiv := ih (n / 10) (by omega) hdigits
            omega

/-! ## Lexemes -/

/-- What a text of C is made of, as far as arrays need it. -/
inductive Lexeme where
  | name (text : String)
  | decimal (value : Nat)
  | hexadecimal (value : Nat)
  | shift
  | opening
  | closing
  | comma
  deriving DecidableEq, Repr

/-- The characters of words. -/
def isWordChar (c : Char) : Bool := c.isAlphanum || c = '_'

/-- What a word means.  It is a number if it begins with a digit; a zero in front of other digits is
the mark of another base, which is not read here. -/
def Lexeme.ofWord? : List Char → Option Lexeme
  | '0' :: 'x' :: digits => (number? 16 digits).map hexadecimal
  | '0' :: _ :: _ => none
  | c :: word =>
    if c.isDigit then (number? 10 (c :: word)).map decimal
    else some (name (String.ofList (c :: word)))
  | [] => none

/-- What a single character between words means: blanks mean nothing. -/
def Lexeme.ofMark? : Char → Option (List Lexeme)
  | ' ' | '\t' | '\n' => some []
  | '(' => some [opening]
  | ')' => some [closing]
  | ',' => some [comma]
  | _ => none

/-- The lexemes from the end of a word on; without a word nothing ends. -/
def endWord (word : List Char) (rest : Option (List Lexeme)) : Option (List Lexeme) :=
  if word = [] then rest else (Lexeme.ofWord? word).bind fun l => rest.map (l :: ·)

/-- The lexemes of a text, in front of which a word has been begun. -/
def scan (word : List Char) : List Char → Option (List Lexeme)
  | [] => endWord word (some [])
  | '<' :: '<' :: cs => endWord word ((scan [] cs).map (.shift :: ·))
  | c :: cs =>
    if isWordChar c then scan (word ++ [c]) cs
    else endWord word ((Lexeme.ofMark? c).bind fun mark => (scan [] cs).map (mark ++ ·))

lemma scan_wordChar {c : Char} (h : isWordChar c = true) (word cs : List Char) :
    scan word (c :: cs) = scan (word ++ [c]) cs := by
  have hshift : c ≠ '<' := by
    rintro rfl
    exact absurd h (by decide)
  rw [scan, if_pos h]
  intro cs' hc
  exact absurd hc hshift

/-- A single character means the same wherever it stands. -/
lemma scan_mark {c : Char} {mark : List Lexeme} (h : Lexeme.ofMark? c = some mark)
    (cs : List Char) : scan [] (c :: cs) = (scan [] cs).map (mark ++ ·) := by
  rw [Lexeme.ofMark?.eq_def] at h
  split at h <;> cases h <;> simp [scan, endWord, isWordChar, Lexeme.ofMark?]

lemma scan_shift (cs : List Char) :
    scan [] ('<' :: '<' :: cs) = (scan [] cs).map (.shift :: ·) := by
  rw [scan]
  rfl

/-- No word goes on with this text. -/
def Separate (cs : List Char) : Prop := ∀ c ∈ cs.head?, isWordChar c = false

lemma Separate.append {cs cs' : List Char} (h : Separate cs) (h' : Separate cs') :
    Separate (cs ++ cs') := by
  cases cs with
  | nil => exact h'
  | cons c cs => exact h

lemma scan_of_separate {cs : List Char} (h : Separate cs) (word : List Char) :
    scan word cs = endWord word (scan [] cs) := by
  cases cs with
  | nil => rfl
  | cons c cs =>
      -- Both sides end their word here and go on in the same way.
      have hc : isWordChar c = false := h c rfl
      rw [scan.eq_def, scan.eq_def [] (c :: cs)]
      split
      · rfl
      · rfl
      · simp_all [endWord]

lemma scan_append_word {text : List Char} (h : ∀ c ∈ text, isWordChar c = true)
    (word rest : List Char) : scan word (text ++ rest) = scan (word ++ text) rest := by
  induction text generalizing word with
  | nil => simp
  | cons c text ih =>
      rw [List.forall_mem_cons] at h
      rw [List.cons_append, scan_wordChar h.1, ih h.2, List.append_assoc, List.singleton_append]

lemma exists_of_endWord {word : List Char} {rest : Option (List Lexeme)} {lexemes : List Lexeme}
    (h : endWord word rest = some lexemes) : ∃ lexemes', rest = some lexemes' := by
  rw [endWord] at h
  split_ifs at h
  · exact ⟨lexemes, h⟩
  · simp only [Option.bind_eq_some_iff, Option.map_eq_some_iff] at h
    obtain ⟨_, _, lexemes', hrest, _⟩ := h
    exact ⟨lexemes', hrest⟩

/-- A character that means nothing stops the reading. -/
lemma not_mem_of_scan {c : Char} (hword : isWordChar c = false) (hmark : Lexeme.ofMark? c = none)
    (hshift : c ≠ '<') {word cs : List Char} {lexemes : List Lexeme}
    (h : scan word cs = some lexemes) : c ∉ cs := by
  fun_induction scan word cs generalizing lexemes with
  | case1 word => simp
  | case2 word cs ih =>
      obtain ⟨_, hrest⟩ := exists_of_endWord h
      obtain ⟨_, hcs, _⟩ := Option.map_eq_some_iff.mp hrest
      simp [hshift, ih hcs]
  | case3 word c' cs _ hc' ih =>
      rw [List.mem_cons, not_or]
      refine ⟨?_, ih h⟩
      rintro rfl
      simp [hword] at hc'
  | case4 word c' cs _ hc' ih =>
      obtain ⟨_, hrest⟩ := exists_of_endWord h
      obtain ⟨mark, hmark', hcs⟩ := Option.bind_eq_some_iff.mp hrest
      obtain ⟨_, hcs, _⟩ := Option.map_eq_some_iff.mp hcs
      rw [List.mem_cons, not_or]
      refine ⟨?_, ih hcs⟩
      rintro rfl
      simp [hmark] at hmark'

/-! ## Texts and what they are cut into -/

/-- The text is cut into these lexemes, as long as no word goes on behind it. -/
def Reads (text : List Char) (lexemes : List Lexeme) : Prop :=
  ∀ rest, Separate rest → scan [] (text ++ rest) = (scan [] rest).map (lexemes ++ ·)

/-- Each of the texts is cut into its own part. -/
abbrev ReadsEach (texts : List String) (parts : List (List Lexeme)) : Prop :=
  List.Forall₂ (fun text part => Reads text.toList part) texts parts

namespace Reads

variable {text text' : List Char} {lexemes lexemes' : List Lexeme}

lemma nil : Reads [] [] := by
  intro rest _
  simp

lemma append (h : Reads text lexemes) (h' : Reads text' lexemes') (hseparate : Separate text') :
    Reads (text ++ text') (lexemes ++ lexemes') := by
  intro rest hrest
  rw [List.append_assoc, h _ (hseparate.append hrest), h' rest hrest, Option.map_map]
  simp [Function.comp_def]

lemma mark {c : Char} {mark : List Lexeme} (hc : Lexeme.ofMark? c = some mark)
    (h : Reads text lexemes) : Reads (c :: text) (mark ++ lexemes) := by
  intro rest hrest
  rw [List.cons_append, scan_mark hc, h rest hrest, Option.map_map]
  simp [Function.comp_def]

lemma shift (h : Reads text lexemes) : Reads ('<' :: '<' :: text) (.shift :: lexemes) := by
  intro rest hrest
  rw [List.cons_append, List.cons_append, scan_shift, h rest hrest, Option.map_map]
  simp [Function.comp_def]

lemma word {l : Lexeme} (hword : ∀ c ∈ text, isWordChar c = true)
    (hl : Lexeme.ofWord? text = some l) : Reads text [l] := by
  intro rest hrest
  have hne : text ≠ [] := by
    rintro rfl
    cases hl
  rw [scan_append_word hword, scan_of_separate hrest, List.nil_append, endWord, if_neg hne, hl]
  rfl

lemma blank (h : Reads text lexemes) {c : Char} (hc : Lexeme.ofMark? c = some []) :
    Reads (c :: text) lexemes :=
  h.mark hc

lemma comma (h : Reads text lexemes) : Reads (',' :: text) (.comma :: lexemes) :=
  h.mark (rfl : Lexeme.ofMark? ',' = some [.comma])

/-- Two parts with a comma between them. -/
lemma join (h : Reads text lexemes) (h' : Reads text' lexemes') :
    Reads (text ++ ',' :: text') (lexemes ++ .comma :: lexemes') :=
  h.append h'.comma (by simp [Separate, isWordChar])

lemma scan_eq (h : Reads text lexemes) : scan [] text = some lexemes := by
  have hempty := h [] (by simp [Separate])
  simpa [scan, endWord] using hempty

/-- There are no braces in what is read. -/
lemma brace_not_mem (h : Reads text lexemes) : '\x7b' ∉ text ∧ '\x7d' ∉ text :=
  ⟨not_mem_of_scan (by decide) (by decide) (by decide) h.scan_eq,
    not_mem_of_scan (by decide) (by decide) (by decide) h.scan_eq⟩

end Reads

lemma isWordChar_of_isHexDigit {c : Char} (h : isHexDigit c = true) : isWordChar c = true := by
  have hcode := (isHexDigit_iff c).mp h
  rw [isWordChar, Char.isAlphanum, Bool.or_eq_true, Bool.or_eq_true, isAlpha_iff, isDigit_iff]
  omega

lemma reads_decimal (n : Nat) : Reads (Text.decimal n).toList [.decimal n] := by
  have hdigit : ∀ c ∈ Nat.toDigits 10 n, c.isDigit = true := fun c hc =>
    Nat.isDigit_of_mem_toDigits (by decide) (by decide) hc
  have hword : ∀ c ∈ Nat.toDigits 10 n, isWordChar c = true := by
    intro c hc
    simp [isWordChar, Char.isAlphanum, hdigit c hc]
  have hnumber := number?_toDigits n
  rw [Text.decimal, String.toList_ofList]
  refine Reads.word hword ?_
  cases hdigits : Nat.toDigits 10 n with
  | nil => exact absurd hdigits Nat.toDigits_ne_nil
  | cons c digits =>
      rw [hdigits] at hnumber hdigit
      by_cases hzero : c = '0'
      · subst hzero
        obtain rfl := eq_zero_of_toDigits hdigits
        cases hdigits
        rfl
      · have hc := hdigit c List.mem_cons_self
        simp [Lexeme.ofWord?, hzero, hc, hnumber]

lemma reads_hexadecimal {n : Nat} {digits : List Char} (hne : digits ≠ [])
    (hdigit : ∀ c ∈ digits, isHexDigit c = true) (hn : numberFrom? 16 0 digits = some n) :
    Reads ('0' :: 'x' :: digits) [.hexadecimal n] := by
  refine Reads.word ?_ ?_
  · intro c hc
    rw [List.mem_cons, List.mem_cons] at hc
    rcases hc with rfl | rfl | hc
    · decide
    · decide
    · exact isWordChar_of_isHexDigit (hdigit c hc)
  · rw [Lexeme.ofWord?, number?, if_neg hne, hn]
    rfl

lemma reads_renderCell (c : Cell) : Reads (renderCell c).toList [.hexadecimal c.toNat] := by
  rw [toList_renderCell]
  exact reads_hexadecimal Nat.toDigits_ne_nil (fun _ => isHexDigit_of_mem_hexDigits)
    (numberFrom?_toDigits (by decide) (by decide) c.toNat)

lemma reads_hexPadded (width n : Nat) :
    Reads ("0x" ++ Text.hexPadded width n).toList [.hexadecimal n] := by
  have htext : ("0x" ++ Text.hexPadded width n).toList
      = '0' :: 'x' :: (Text.hexDigits n).leftpad width '0' := by
    simp [Text.hexPadded]
  rw [htext]
  refine reads_hexadecimal ?_ ?_ (numberFrom?_leftpad width n)
  · simp [List.leftpad, Text.hexDigits, Nat.toDigits_ne_nil]
  · intro c hc
    rcases List.mem_append.mp hc with hc | hc
    · rw [List.eq_of_mem_replicate hc]
      decide
    · exact isHexDigit_of_mem_hexDigits hc

/-! ## Arrays -/

/-- What stands in the last braces of a text. -/
def initializer (text : List Char) : List Char :=
  (text.reverse.takeWhile (· ≠ '\x7b')).reverse.takeWhile (· ≠ '\x7d')

/-- The lexemes in the braces. -/
def lexemes (text : String) : Option (List Lexeme) := scan [] (initializer text.toList)

/-- The number of a hexadecimal literal. -/
def Lexeme.hexadecimal? : Lexeme → Option Nat
  | hexadecimal n => some n
  | _ => none

/-- The hexadecimal literals in the braces. -/
def hexadecimals (text : String) : Option (List Nat) :=
  (lexemes text).map (List.filterMap Lexeme.hexadecimal?)

/-- The number that a text gives as the size of the array with the given name. -/
def dataSize (name text : String) : Option Nat := do
  let rest ← text.toList.dropPrefix? ("u64 " ++ name ++ "_data_size = ").toList
  number? 10 (rest.takeWhile (· ≠ ';'))

lemma takeWhile_ne_append {c : Char} {cs : List Char} (h : c ∉ cs) (rest : List Char) :
    (cs ++ c :: rest).takeWhile (· ≠ c) = cs := by
  have hne : ∀ d ∈ cs, decide (d ≠ c) = true := by
    intro d hd
    rw [decide_eq_true_eq]
    rintro rfl
    exact h hd
  rw [List.takeWhile_append_of_pos hne, List.takeWhile_cons_of_neg (by simp), List.append_nil]

lemma initializer_eq {front body rest : List Char} (hbody : '\x7b' ∉ body ∧ '\x7d' ∉ body)
    (hrest : '\x7b' ∉ rest) :
    initializer (front ++ '\x7b' :: (body ++ '\x7d' :: rest)) = body := by
  -- The last opening brace is the first one from behind.
  have hreverse : (front ++ '\x7b' :: (body ++ '\x7d' :: rest)).reverse
      = (body ++ '\x7d' :: rest).reverse ++ '\x7b' :: front.reverse := by simp
  have hbehind : '\x7b' ∉ (body ++ '\x7d' :: rest).reverse := by
    simp [hbody.1, hrest]
  rw [initializer, hreverse, takeWhile_ne_append hbehind, List.reverse_reverse,
    takeWhile_ne_append hbody.2]

section ArrayText

variable (mode : EmitMode) (b : Block) (t : Tag)

/-- The lines in the braces of a block's array. -/
def arrayLines : List String := tagText mode b t :: b.writes.map (entryText mode)

/-- Lines as they stand in the braces. -/
def printLines (lines : List String) : List Char :=
  lines.flatMap fun line => '\t' :: (line.toList ++ [',', '\n'])

lemma toList_arrayText :
    (arrayText mode b t).toList
      = ("u64 " ++ b.name ++ "_data_size = ").toList
        ++ ((Text.decimal ((b.writes.length + 1) * 16)).toList ++ ';'
          :: (("\nu64 " ++ b.name ++ "_data[] __attribute__((aligned(16))) = ").toList
            ++ '\x7b' :: ('\n' :: printLines (arrayLines mode b t) ++ '\x7d' :: [';', '\n']))) := by
  delta arrayText
  simp [arrayLines, printLines, List.flatMap_map]

variable {mode b t}

lemma separate_printLines (lines : List String) : Separate (printLines lines) := by
  cases lines with
  | nil => simp [printLines, Separate]
  | cons line lines => simp [printLines, Separate, isWordChar]

lemma reads_printLines {lines : List String} {parts : List (List Lexeme)}
    (h : ReadsEach lines parts) :
    Reads (printLines lines) (parts.flatMap (· ++ [Lexeme.comma])) := by
  induction h with
  | nil => exact Reads.nil
  | @cons line part lines parts hline _ ih =>
      have hline' : Reads ('\t' :: (line.toList ++ [',', '\n'])) (part ++ [.comma]) :=
        (hline.join (Reads.nil.blank rfl)).blank rfl
      exact hline'.append ih (separate_printLines lines)

/-- **An array is read line by line.** -/
theorem lexemes_arrayText {parts : List (List Lexeme)}
    (h : ReadsEach (arrayLines mode b t) parts) :
    lexemes (arrayText mode b t) = some (parts.flatMap (· ++ [Lexeme.comma])) := by
  have hreads := (reads_printLines h).blank (rfl : Lexeme.ofMark? '\n' = some [])
  have hrest : '\x7b' ∉ [';', '\n'] := by decide
  rw [lexemes, toList_arrayText, ← List.cons_append, ← List.append_assoc, ← List.append_assoc,
    initializer_eq hreads.brace_not_mem hrest, hreads.scan_eq]

lemma dataSize_arrayText :
    dataSize b.name (arrayText mode b t) = some ((b.writes.length + 1) * 16) := by
  set size := (b.writes.length + 1) * 16
  have hsemicolon : ';' ∉ Nat.toDigits 10 size := by
    intro hmem
    exact absurd (Nat.isDigit_of_mem_toDigits (by decide) (by decide) hmem) (by decide)
  have hdrop : ∀ name rest : List Char, (name ++ rest).dropPrefix? name = some rest :=
    fun name rest => List.dropPrefix?_eq_some_iff.mpr ⟨name, rfl, beq_self_eq_true name⟩
  rw [dataSize, toList_arrayText, hdrop, Option.bind_eq_bind, Option.bind_some, Text.decimal,
    String.toList_ofList, takeWhile_ne_append hsemicolon, number?_toDigits]

end ArrayText

/-! ## Bare numbers -/

lemma reads_wordLiteral (w : UInt64) : Reads (wordLiteral w).toList [.hexadecimal w.toNat] :=
  reads_hexPadded 16 w.toNat

/-- How a pair of words is read. -/
def pairLexemes (first second : UInt64) : List Lexeme :=
  [.hexadecimal first.toNat, .comma, .hexadecimal second.toNat]

lemma reads_tagText_magic (b : Block) (t : Tag) :
    Reads (tagText .magic b t).toList (pairLexemes t.pack.1 t.pack.2) := by
  have hjoin := (reads_wordLiteral t.pack.1).join (reads_wordLiteral t.pack.2)
  simpa [tagText, pairLexemes] using hjoin

lemma reads_entryText_magic (w : Write) :
    Reads (entryText .magic w).toList (pairLexemes w.encode w.register.address.toUInt64) := by
  have hjoin := (reads_wordLiteral w.encode).join (reads_hexPadded 2 w.register.address.toNat)
  simpa [entryText, pairLexemes] using hjoin

lemma lexemes_magic (b : Block) (t : Tag) :
    lexemes (arrayText .magic b t)
      = some ((t.pack.1 :: t.pack.2 :: b.writes.flatMap Block.entryWords).flatMap
        fun w => [.hexadecimal w.toNat, .comma]) := by
  have hlines : ReadsEach (arrayLines .magic b t) (pairLexemes t.pack.1 t.pack.2
      :: b.writes.map fun w => pairLexemes w.encode w.register.address.toUInt64) := by
    refine .cons (reads_tagText_magic b t) ?_
    rw [List.forall₂_map_left_iff, List.forall₂_map_right_iff]
    exact List.forall₂_same.mpr fun w _ => reads_entryText_magic w
  rw [lexemes_arrayText hlines]
  simp [List.flatMap_map, List.flatMap_assoc, pairLexemes, Block.entryWords]

lemma filterMap_hexadecimal? (words : List UInt64) :
    (words.flatMap fun w => [.hexadecimal w.toNat, .comma]).filterMap Lexeme.hexadecimal?
      = words.map UInt64.toNat := by
  induction words with
  | nil => rfl
  | cons w words ih =>
      rw [List.flatMap_cons, List.filterMap_append, ih]
      rfl

/-- **In bare numbers an array is the packet.**  A block is refused exactly if it has no packet.
Otherwise the hexadecimal literals in the braces are the words of the packet, with nothing but
commas between them, and the size is eight bytes for each. -/
theorem emit_magic (started : Bool) (chunks : List Bytes) (b : Block) :
    let g : Generator := { format := .cArray .magic, started := started }
    let out : Output := { chunks := chunks }
    match b.words with
    | .error e => g.emit out b = (g, out, some (.tooManyWrites e))
    | .ok words =>
      ∃ text,
        g.emit out b = ({ g with started := true },
          { out with chunks := g.chunk (Utf8.encode text) :: chunks }, none) ∧
        lexemes text = some (words.flatMap fun w => [.hexadecimal w.toNat, .comma]) ∧
        hexadecimals text = some (words.map UInt64.toNat) ∧
        dataSize b.name text = some (8 * words.length) := by
  intro g out
  cases htag : b.tag with
  | error e =>
      have hbody : g.format.body b = .error e := by
        simp [g, Format.body, render, htag, Except.map]
      simp [Block.words, htag, Except.map, Generator.emit, hbody]
  | ok t =>
      have hbody : g.format.body b = .ok (Utf8.encode (arrayText .magic b t)) := by
        simp [g, Format.body, render, htag, Except.map]
      have hlexemes := lexemes_magic b t
      simp only [Block.words, htag, Except.map]
      refine ⟨_, Generator.emit_of_body hbody rfl rfl, hlexemes, ?_, ?_⟩
      · rw [hexadecimals, hlexemes, Option.map_some, filterMap_hexadecimal?]
      · rw [dataSize_arrayText, List.length_cons, List.length_cons, Block.length_flatMap_entryWords,
          Option.some.injEq]
        omega

end RegisterScript.CArray
