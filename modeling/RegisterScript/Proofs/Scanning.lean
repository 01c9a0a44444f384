import RegisterScript.Proofs.NumberForms

/-!
# Scanning a text piece by piece

Tokens carry the places where they stand, and those depend on everything before them.  What they
are does not.  `Scans cs symbols` says that the characters `cs`, wherever they stand, are scanned to
tokens with the given symbols, and a text is scanned from its end: each lemma puts one piece in
front.

**Pieces.**  `Scans.blank` and `Scans.comment` for what is passed over; `Scans.mark`, `Scans.word`
and `Scans.number` for the tokens.  The last two need something behind them that ends them (`Ends`).

**Lexemes.**  `Symbol.Scanned` is what is known about a symbol that the scanner finds in a text: an
identifier is a name, a number holds no comma.  Scanning ends with the text or with its first
problem, and never goes on (`lexemesFrom_one_cases`).
-/

namespace RegisterScript

/-- What a token is, wherever it stands. -/
structure Symbol where
  kind : TokenKind
  text : String
  deriving DecidableEq, Repr

/-- The symbol of a token. -/
def Token.symbol (t : Token) : Symbol := ⟨t.kind, t.text⟩

/-- The characters are scanned, wherever they stand, to tokens with these symbols. -/
def Scans (cs : List Char) (symbols : List Symbol) : Prop :=
  ∀ file position, ∃ tokens : List Token, tokens.map Token.symbol = symbols ∧
    lexemesFrom file .complete 1 ⟨position, cs⟩ [] = tokens.map .ok

/-! ## Steps of the scanner -/

section Steps

variable {file : String} {ending : Ending} {problems : Nat} {cursor : Cursor}

/-- The scanner goes by what comes next, and by nothing else about the cursor. -/
lemma lexemesFrom_succ (file : String) (ending : Ending) (problems : Nat) (cursor : Cursor)
    (read : List (Except ScanError Token)) :
    lexemesFrom file ending (problems + 1) cursor read =
      match next file ending cursor with
      | .finished position => (.ok ⟨.endOfInput, "", ⟨file, position⟩⟩ :: read).reverse
      | .token kind text position rest =>
        lexemesFrom file ending (problems + 1) rest
          (.ok ⟨kind, String.ofList text, ⟨file, position⟩⟩ :: read)
      | .failed error rest => lexemesFrom file ending problems rest (.error error :: read) := by
  rw [lexemesFrom]
  split <;> rename_i h <;> rw [h]

/-- What has been read before is only carried along. -/
lemma lexemesFrom_eq_append (file : String) (ending : Ending) (problems : Nat) (cursor : Cursor)
    (read : List (Except ScanError Token)) :
    lexemesFrom file ending problems cursor read
      = read.reverse ++ lexemesFrom file ending problems cursor [] := by
  suffices h : ∀ read, lexemesFrom file ending problems cursor read
      = read.reverse ++ lexemesFrom file ending problems cursor [] from h read
  refine lexemesFrom.induct file ending (motive := fun problems cursor _ => ∀ read,
    lexemesFrom file ending problems cursor read
      = read.reverse ++ lexemesFrom file ending problems cursor []) ?_ ?_ ?_ ?_ problems cursor []
  · intro cursor _ read
    simp [lexemesFrom]
  · intro cursor _ problems position h read
    rw [lexemesFrom_succ, lexemesFrom_succ, h]
    simp
  · intro cursor _ problems kind text position rest h ih read
    rw [lexemesFrom_succ, lexemesFrom_succ, h]
    simp only
    rw [ih, ih [_]]
    simp
  · intro cursor _ problems error rest h ih read
    rw [lexemesFrom_succ, lexemesFrom_succ, h]
    simp only
    rw [ih, ih [_]]
    simp

lemma lexemesFrom_of_token {kind : TokenKind} {text : List Char} {position : Position}
    {rest : Cursor} (h : next file ending cursor = .token kind text position rest) :
    lexemesFrom file ending (problems + 1) cursor []
      = .ok ⟨kind, String.ofList text, ⟨file, position⟩⟩
        :: lexemesFrom file ending (problems + 1) rest [] := by
  rw [lexemesFrom_succ, h]
  simp only
  rw [lexemesFrom_eq_append]
  rfl

lemma lexemesFrom_of_failed {error : ScanError} {rest : Cursor}
    (h : next file ending cursor = .failed error rest) :
    lexemesFrom file ending (problems + 1) cursor []
      = .error error :: lexemesFrom file ending problems rest [] := by
  rw [lexemesFrom_succ, h]
  simp only
  rw [lexemesFrom_eq_append]
  rfl

lemma lexemesFrom_congr {cursor' : Cursor}
    (h : next file ending cursor = next file ending cursor') :
    lexemesFrom file ending (problems + 1) cursor []
      = lexemesFrom file ending (problems + 1) cursor' [] := by
  rw [lexemesFrom_succ, lexemesFrom_succ, h]

end Steps

/-- The same loop with a bound on its steps, which can be evaluated. -/
def lexemesWithin (file : String) (ending : Ending) :
    (steps problems : Nat) → Cursor → List (Except ScanError Token)
  | 0, _, _ => []
  | _ + 1, 0, _ => []
  | steps + 1, problems + 1, cursor =>
    match next file ending cursor with
    | .finished position => [.ok ⟨.endOfInput, "", ⟨file, position⟩⟩]
    | .token kind text position rest =>
      .ok ⟨kind, String.ofList text, ⟨file, position⟩⟩
        :: lexemesWithin file ending steps (problems + 1) rest
    | .failed error rest => .error error :: lexemesWithin file ending steps problems rest

/-- Up to the first problem there are no more tokens than characters. -/
lemma lexemesFrom_eq_lexemesWithin (file : String) (ending : Ending) {steps : Nat}
    {cursor : Cursor} (h : cursor.rest.length < steps) :
    lexemesFrom file ending 1 cursor [] = lexemesWithin file ending steps 1 cursor := by
  induction steps generalizing cursor with
  | zero => omega
  | succ steps ih =>
      rw [lexemesWithin]
      cases hnext : next file ending cursor with
      | finished position =>
          rw [lexemesFrom_succ, hnext]
          rfl
      | token kind text position rest =>
          have hlength := length_of_next_token hnext
          rw [lexemesFrom_of_token hnext, ih (by omega)]
      | failed error rest =>
          rw [lexemesFrom_succ, hnext]
          cases steps <;> simp [lexemesFrom, lexemesWithin]

/-! ## What is passed over -/

lemma skip_length (position : Position) (cs cs' : List Char) :
    Cursor.skip ⟨position, cs ++ cs'⟩ (cs ++ cs').length
      = Cursor.skip ⟨position.advanceBy cs, cs'⟩ cs'.length := by
  rw [Cursor.skip, Cursor.skip, List.take_length, List.drop_length, List.take_length,
    List.drop_length, Position.advanceBy, List.foldl_append]
  rfl

lemma skipTrivia_blank {c : Char} (h : Text.isBlank c = true) (position : Position)
    (cs : List Char) :
    Cursor.skipTrivia ⟨position, c :: cs⟩ = Cursor.skipTrivia ⟨position.advance c, cs⟩ := by
  have hskip : Cursor.skipWhile ⟨position, c :: cs⟩ Text.isBlank
      = Cursor.skipWhile ⟨position.advance c, cs⟩ Text.isBlank := by
    simp [Cursor.skipWhile, h, Position.advanceBy]
  rw [Cursor.skipTrivia, Cursor.skipTrivia, hskip]

/-- A blank moves the scanner on by one place. -/
lemma next_blank {c : Char} (h : Text.isBlank c = true) (file : String) (ending : Ending)
    (position : Position) (cs : List Char) :
    next file ending ⟨position, c :: cs⟩ = next file ending ⟨position.advance c, cs⟩ := by
  have hlength := skip_length position [c] cs
  simp only [List.singleton_append, Position.advanceBy, List.foldl_cons, List.foldl_nil] at hlength
  rw [next, next, skipTrivia_blank h]
  simp only [hlength]

/-- Where neither a blank nor a slash stands, nothing is passed over. -/
lemma skipTrivia_of_solid {c : Char} (hblank : Text.isBlank c = false) (hslash : c ≠ '/')
    (position : Position) (cs : List Char) :
    Cursor.skipTrivia ⟨position, c :: cs⟩ = .ok ⟨position, c :: cs⟩ := by
  have hskip : Cursor.skipWhile ⟨position, c :: cs⟩ Text.isBlank = ⟨position, c :: cs⟩ := by
    simp [Cursor.skipWhile, hblank, Position.advanceBy]
  have habsent : comment (c :: cs) = .absent := by
    rw [comment.eq_def]
    split <;> simp_all
  rw [Cursor.skipTrivia, hskip]
  simp only
  split <;> simp_all

/-- A line comment, with the newline that ends it. -/
def lineComment (line : List Char) : List Char := '/' :: '/' :: (line ++ ['\n'])

lemma comment_lineComment {line : List Char} (h : '\n' ∉ line) (cs : List Char) :
    comment (lineComment line ++ cs) = .closed (line.length + 2) := by
  have htake : (line ++ '\n' :: cs).takeWhile (· ≠ '\n') = line := by
    rw [List.takeWhile_append_of_pos]
    · simp
    · intro c hc
      simp only [decide_eq_true_eq]
      rintro rfl
      exact h hc
  simp only [lineComment, List.cons_append, List.append_assoc, List.nil_append, comment, htake]

/-- A comment that is ahead is passed over. -/
lemma skipTrivia_of_comment {cs : List Char} {extra : Nat} (h : comment cs = .closed extra)
    (position : Position) :
    Cursor.skipTrivia ⟨position, cs⟩ = (Cursor.skip ⟨position, cs⟩ (extra + 1)).skipTrivia := by
  obtain ⟨more, rfl⟩ : ∃ more, cs = '/' :: more := by
    rw [comment.eq_def] at h
    split at h
    · exact ⟨_, rfl⟩
    · exact ⟨_, rfl⟩
    · cases h
  have hskip : Cursor.skipWhile ⟨position, '/' :: more⟩ Text.isBlank
      = ⟨position, '/' :: more⟩ := by
    have hslash : Text.isBlank '/' = false := by decide
    simp [Cursor.skipWhile, hslash, Position.advanceBy]
  rw [Cursor.skipTrivia, hskip]
  simp only
  split
  · simp_all
  · simp_all
  · rename_i hcomment
    rw [h, Comment.closed.injEq] at hcomment
    rw [hcomment]

/-- Behind a comment that is passed over, scanning goes on. -/
lemma skipTrivia_of_closed {front cs : List Char} {extra : Nat}
    (h : comment (front ++ cs) = .closed extra) (hlength : front.length = extra + 1)
    (position : Position) :
    Cursor.skipTrivia ⟨position, front ++ cs⟩
      = Cursor.skipTrivia ⟨position.advanceBy front, cs⟩ := by
  rw [skipTrivia_of_comment h, Cursor.skip, ← hlength, List.take_left, List.drop_left]

lemma skipTrivia_lineComment {line : List Char} (h : '\n' ∉ line) (position : Position)
    (cs : List Char) :
    Cursor.skipTrivia ⟨position, lineComment line ++ cs⟩
      = Cursor.skipTrivia ⟨position.advanceBy (lineComment line), cs⟩ :=
  skipTrivia_of_closed (comment_lineComment h cs) (by simp [lineComment]) position

lemma next_lineComment {line : List Char} (h : '\n' ∉ line) (file : String) (ending : Ending)
    (position : Position) (cs : List Char) :
    next file ending ⟨position, lineComment line ++ cs⟩
      = next file ending ⟨position.advanceBy (lineComment line), cs⟩ := by
  rw [next, next, skipTrivia_lineComment h]
  simp only [skip_length]

/-! ## Tokens -/

/-- The characters end whatever name or number stands in front of them. -/
def Ends (cs : List Char) : Prop := ∀ c ∈ cs.head?, continuesName c = false ∧ c ≠ '.'

/-- What the scanner takes for an identifier. -/
def IsName (text : String) : Prop :=
  ∃ c cs, text.toList = c :: cs ∧ startsName c = true ∧ (∀ d ∈ cs, continuesName d = true) ∧
    text.toList ≠ keyword

lemma isBlank_eq_false_of_startsName {c : Char} (h : startsName c = true) :
    Text.isBlank c = false := by
  simp only [startsName, Bool.or_eq_true, decide_eq_true_eq] at h
  rcases h with h | rfl
  · exact isBlank_eq_false_of_isLetter h
  · decide

lemma continuesName_of_isHexDigit {c : Char} (h : isHexDigit c = true) :
    continuesName c = true := by
  rw [isHexDigit_iff] at h
  have hascii : c.toNat < 0x80 := by omega
  simp only [continuesName, Text.isLetter, Text.isDecimalDigit, hascii, if_true, Bool.or_eq_true,
    isAlpha_iff, isDigit_iff]
  omega

lemma Ends.takeWhile_append {cs : List Char} (h : Ends cs) {p : Char → Bool}
    (hp : ∀ c, p c = true → continuesName c = true) {token : List Char}
    (htoken : ∀ c ∈ token, p c = true) : (token ++ cs).takeWhile p = token := by
  rw [List.takeWhile_append_of_pos htoken]
  cases cs with
  | nil => simp
  | cons c cs =>
      have hc : p c ≠ true := by
        intro hpc
        have hends := (h c (by simp)).1
        rw [hp c hpc] at hends
        cases hends
      rw [List.takeWhile_cons_of_neg hc, List.append_nil]

/-- What ends every name and number stops every form of number. -/
lemma Ends.stopsBefore {cs : List Char} (h : Ends cs) (form : NumberForm) :
    ∀ d ∈ cs.head?, form.StopsBefore d := by
  intro d hd
  obtain ⟨hname, hpoint⟩ := h d hd
  have hhex : isHexDigit d = false := by
    rw [Bool.eq_false_iff]
    intro hhex
    rw [continuesName_of_isHexDigit hhex] at hname
    cases hname
  simp only [continuesName, Bool.or_eq_false_iff, decide_eq_false_iff_not] at hname
  obtain ⟨⟨hletter, hdigit⟩, hunderscore⟩ := hname
  refine ⟨?_, (runsOn_eq_false_iff d).mpr ⟨hletter, hunderscore, hpoint⟩⟩
  cases form with
  | hexadecimal => exact hhex
  | whole => exact hdigit
  | pointed => exact hdigit
  | suffixed => rfl

-- The test is on `Bool` throughout, so that it does not matter which instances are around.
instance : DecidablePred IsName := fun text =>
  decidable_of_iff (text.toList.head?.any startsName && text.toList.tail.all continuesName
      && (text.toList != keyword)) <| by
    cases h : text.toList <;> simp [IsName, h, and_assoc]

/-- One token, and where scanning goes on behind it. -/
lemma next_of_bite {c : Char} {token rest : List Char} {kind : TokenKind} {looksAhead : Bool}
    (hblank : Text.isBlank c = false) (hslash : c ≠ '/')
    (hbite : bite c (token ++ rest) = ⟨token.length, .ok kind, looksAhead⟩) (file : String)
    (position : Position) :
    next file .complete ⟨position, c :: (token ++ rest)⟩
      = .token kind (c :: token) position ⟨position.advanceBy (c :: token), rest⟩ := by
  rw [next, skipTrivia_of_solid hblank hslash]
  simp [scanBite, hbite, Cursor.skip]

namespace Scans

variable {cs : List Char} {symbols : List Symbol}

/-- The end of the text. -/
lemma nil : Scans [] [⟨.endOfInput, ""⟩] := by
  intro file position
  refine ⟨[⟨.endOfInput, "", ⟨file, position⟩⟩], rfl, ?_⟩
  have hnext : next file .complete ⟨position, []⟩ = .finished position := by
    simp [next, Cursor.skipTrivia, Cursor.skipWhile, Position.advanceBy, comment, atEnd]
  rw [lexemesFrom_succ, hnext]
  rfl

/-- There is always at least the end of the text. -/
lemma ne_nil (h : Scans cs symbols) : symbols ≠ [] := by
  rintro rfl
  obtain ⟨tokens, hsymbols, hlexemes⟩ := h "" {}
  rw [List.map_eq_nil_iff.mp hsymbols, lexemesFrom_succ] at hlexemes
  split at hlexemes
  · simp at hlexemes
  · rw [lexemesFrom_eq_append] at hlexemes
    simp at hlexemes
  · simp [lexemesFrom] at hlexemes

lemma of_next_eq {cs' : List Char}
    (hnext : ∀ file position, ∃ position', next file .complete ⟨position, cs'⟩
      = next file .complete ⟨position', cs⟩) (h : Scans cs symbols) : Scans cs' symbols := by
  intro file position
  obtain ⟨position', hnext⟩ := hnext file position
  obtain ⟨tokens, hsymbols, hlexemes⟩ := h file position'
  exact ⟨tokens, hsymbols, (lexemesFrom_congr hnext).trans hlexemes⟩

lemma blank {c : Char} (hc : Text.isBlank c = true) (h : Scans cs symbols) :
    Scans (c :: cs) symbols :=
  of_next_eq (fun file position => ⟨_, next_blank hc file .complete position cs⟩) h

lemma comment {line : List Char} (hline : '\n' ∉ line) (h : Scans cs symbols) :
    Scans (lineComment line ++ cs) symbols :=
  of_next_eq (fun file position => ⟨_, next_lineComment hline file .complete position cs⟩) h

lemma of_bite {c : Char} {token : List Char} {kind : TokenKind} {looksAhead : Bool}
    (hblank : Text.isBlank c = false) (hslash : c ≠ '/')
    (hbite : bite c (token ++ cs) = ⟨token.length, .ok kind, looksAhead⟩) (h : Scans cs symbols) :
    Scans (c :: (token ++ cs)) (⟨kind, String.ofList (c :: token)⟩ :: symbols) := by
  intro file position
  obtain ⟨tokens, hsymbols, hlexemes⟩ := h file (position.advanceBy (c :: token))
  refine ⟨⟨kind, String.ofList (c :: token), ⟨file, position⟩⟩ :: tokens, ?_, ?_⟩
  · rw [List.map_cons, hsymbols]
    rfl
  · rw [lexemesFrom_of_token (next_of_bite hblank hslash hbite file position), hlexemes]
    rfl

/-- One of the four marks. -/
lemma mark {c : Char} (hc : isPunctuation c = true) (h : Scans cs symbols) :
    Scans (c :: cs) (⟨.punctuation, String.singleton c⟩ :: symbols) := by
  simp only [isPunctuation, Bool.or_eq_true, decide_eq_true_eq] at hc
  have hblank : Text.isBlank c = false := by
    rcases hc with ((rfl | rfl) | rfl) | rfl <;> decide
  have hslash : c ≠ '/' := by
    rcases hc with ((rfl | rfl) | rfl) | rfl <;> decide
  have hbite : bite c ([] ++ cs) = ⟨0, .ok .punctuation, false⟩ := by
    rcases hc with ((rfl | rfl) | rfl) | rfl <;> rfl
  exact of_bite hblank hslash hbite h

/-- A word, which may be the keyword. -/
lemma word {c : Char} {more : List Char} (hc : startsName c = true)
    (hmore : ∀ d ∈ more, continuesName d = true) (hends : Ends cs) (h : Scans cs symbols) :
    Scans (c :: (more ++ cs)) (⟨if c :: more = keyword then .keyword else .identifier,
      String.ofList (c :: more)⟩ :: symbols) := by
  have hslash : c ≠ '/' := by
    rintro rfl
    exact absurd hc (by decide)
  have hbite : bite c (more ++ cs)
      = ⟨more.length, .ok (if c :: more = keyword then .keyword else .identifier), true⟩ := by
    rw [bite, if_pos hc, hends.takeWhile_append (fun _ => id) hmore]
  exact of_bite (isBlank_eq_false_of_startsName hc) hslash hbite h

/-- A name. -/
lemma name {text : String} (hname : IsName text) (hends : Ends cs) (h : Scans cs symbols) :
    Scans (text.toList ++ cs) (⟨.identifier, text⟩ :: symbols) := by
  obtain ⟨c, more, htext, hstart, hmore, hkeyword⟩ := hname
  have hscan := h.word hstart hmore hends
  rw [← htext, if_neg hkeyword, String.ofList_toList] at hscan
  rw [htext]
  exact hscan

/-- A number. -/
lemma number {form : NumberForm} {negative : Bool} {c : Char} {more : List Char}
    (hspells : form.Spells negative (c :: more)) (hends : Ends cs) (h : Scans cs symbols) :
    Scans (c :: (more ++ cs)) (⟨.number, String.ofList (c :: more)⟩ :: symbols) := by
  have hstart := (startsNumber_iff c).mp hspells.startsNumber
  have hblank : Text.isBlank c = false := by
    rcases hstart with rfl | hdigit | rfl
    · decide
    · exact isBlank_eq_false_of_isDecimalDigit hdigit
    · decide
  have hslash : c ≠ '/' := by
    rintro rfl
    exact absurd hstart (by decide)
  exact of_bite hblank hslash (bite_number hspells (hends.stopsBefore form)) h

end Scans

/-! ## What the scanner makes of a text -/

/-- What is known about a symbol that the scanner has found in a text. -/
def Symbol.Scanned (symbol : Symbol) : Prop :=
  match symbol.kind with
  | .endOfInput => False
  | .identifier => IsName symbol.text
  | .number => ',' ∉ symbol.text.toList
  | .keyword => symbol.text.toList = keyword
  | .punctuation => True

/-- What is bitten off, by its kind. -/
lemma scanned_of_bite {c : Char} {cs : List Char} {kind : TokenKind}
    (h : (bite c cs).outcome = .ok kind) :
    Symbol.Scanned ⟨kind, String.ofList (c :: cs.take (bite c cs).extra)⟩ := by
  rw [bite] at h ⊢
  split_ifs at h ⊢ with hstart hnumber hslash hmark
  · have htake : cs.take (cs.takeWhile continuesName).length = cs.takeWhile continuesName :=
      (List.prefix_iff_eq_take.mp (List.takeWhile_prefix _)).symm
    dsimp only at h ⊢
    rw [htake]
    split_ifs at h with hkeyword
    · cases h
      simpa [Symbol.Scanned] using hkeyword
    · cases h
      exact ⟨c, cs.takeWhile continuesName, by simp, hstart,
        fun d hd => List.all_eq_true.mp List.all_takeWhile d hd, by simpa using hkeyword⟩
  · obtain ⟨form, negative, text, rest, rfl, hextra, hspells, hstops⟩ :=
      exists_spells_of_biteNumber hnumber h
    have hbite := bite_number hspells hstops
    rw [bite, if_neg hstart, if_pos hnumber] at hbite
    rw [hbite] at h
    cases h
    rw [hextra, List.take_left]
    simpa [Symbol.Scanned] using hspells.comma_not_mem
  · cases h
    trivial

/-- A token is bitten off behind what is passed over. -/
lemma exists_of_next_token {file : String} {ending : Ending} {cursor rest : Cursor}
    {kind : TokenKind} {text : List Char} {position : Position}
    (h : next file ending cursor = .token kind text position rest) :
    ∃ ahead c cs, cursor.skipTrivia = .ok ahead ∧ ahead.rest = c :: cs ∧
      (bite c cs).outcome = .ok kind ∧ text = c :: cs.take (bite c cs).extra ∧
      position = ahead.position ∧ rest = ahead.skip ((bite c cs).extra + 1) := by
  rw [next] at h
  split at h
  · split at h <;> cases h
  · rename_i ahead hahead
    split at h
    · rw [atEnd.eq_def] at h
      split at h <;> cases h
    · rename_i c cs hrest
      rw [scanBite.eq_def] at h
      dsimp only at h
      split at h
      · cases h
      · split at h
        · rename_i hkind
          cases h
          exact ⟨ahead, c, cs, hahead, hrest, hkind, rfl, rfl, rfl⟩
        · cases h

lemma scanned_of_next {file : String} {ending : Ending} {cursor rest : Cursor}
    {kind : TokenKind} {text : List Char} {position : Position}
    (h : next file ending cursor = .token kind text position rest) :
    Symbol.Scanned ⟨kind, String.ofList text⟩ := by
  obtain ⟨ahead, c, cs, -, -, hkind, rfl, -, -⟩ := exists_of_next_token h
  exact scanned_of_bite hkind

/-- **Lexemes are tokens up to the end of the text, or up to the first problem.** -/
theorem lexemesFrom_one_cases (file : String) (ending : Ending) (cursor : Cursor) :
    ∃ tokens : List Token, (∀ t ∈ tokens, t.symbol.Scanned) ∧
      ((∃ last : Token, last.symbol = ⟨.endOfInput, ""⟩ ∧
          lexemesFrom file ending 1 cursor [] = (tokens ++ [last]).map .ok) ∨
        ∃ e, lexemesFrom file ending 1 cursor [] = tokens.map .ok ++ [.error e]) := by
  induction hlength : cursor.rest.length using Nat.strong_induction_on generalizing cursor with
  | _ length ih =>
      cases hnext : next file ending cursor with
      | finished position =>
          refine ⟨[], by simp, .inl ⟨⟨.endOfInput, "", ⟨file, position⟩⟩, rfl, ?_⟩⟩
          rw [lexemesFrom_succ, hnext]
          rfl
      | failed error rest =>
          refine ⟨[], by simp, .inr ⟨error, ?_⟩⟩
          rw [lexemesFrom_succ, hnext]
          simp [lexemesFrom]
      | token kind text position rest =>
          have hlt := length_of_next_token hnext
          obtain ⟨tokens, htokens, hrest⟩ := ih _ (hlength ▸ hlt) rest rfl
          refine ⟨⟨kind, String.ofList text, ⟨file, position⟩⟩ :: tokens, ?_, ?_⟩
          · exact List.forall_mem_cons.mpr ⟨scanned_of_next hnext, htokens⟩
          · rw [lexemesFrom_of_token hnext]
            rcases hrest with ⟨last, hlast, hrest⟩ | ⟨e, hrest⟩
            · exact .inl ⟨last, hlast, by rw [hrest]; rfl⟩
            · exact .inr ⟨e, by rw [hrest]; rfl⟩

/-- Whatever the scanner calls an identifier is a name. -/
lemma isName_of_mem_lexemesFrom {file : String} {ending : Ending} {cursor : Cursor} {t : Token}
    (h : .ok t ∈ lexemesFrom file ending 1 cursor []) (hkind : t.kind = .identifier) :
    IsName t.text := by
  obtain ⟨tokens, htokens, ⟨last, hlast, hlexemes⟩ | ⟨e, hlexemes⟩⟩ :=
    lexemesFrom_one_cases file ending cursor
  all_goals
    have hmem : t ∈ tokens := by
      rw [hlexemes] at h
      simp only [List.map_append, List.map_cons, List.map_nil, List.mem_append, List.mem_map,
        Except.ok.injEq, exists_eq_right, List.mem_singleton, reduceCtorEq, or_false] at h
      grind [Token.symbol]
    have hscanned := htokens t hmem
    rwa [Symbol.Scanned, Token.symbol, hkind] at hscanned

end RegisterScript
