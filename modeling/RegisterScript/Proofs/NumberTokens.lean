import RegisterScript.Proofs.TokenPlaces

/-!
# Numbers in a text

What is true of a number that the scanner bites off is true of every number in a script.  A scanner
that has been resumed behind a problem still stands in its text, at the place that it names
(`Cursor.StandsIn`), so every token comes from a step that starts in the text
(`exists_next_of_mem_lexemesFrom`).

Only a number whose last digit is not decided by what comes next, one with a suffix or in
hexadecimal, can have a digit behind it: `Source.lexemes_number`.
-/

namespace RegisterScript

/-! ## In a script -/

/-- The cursor stands in a text, at the place that it names. -/
def Cursor.StandsIn (cursor : Cursor) (text : List Char) : Prop :=
  ∃ read, text = read ++ cursor.rest ∧ cursor.position = .behind read

section Steps

variable {file : String} {ending : Ending} {cursor rest : Cursor} {text : List Char}

namespace Cursor.StandsIn

lemma start (text : List Char) : (Cursor.start text).StandsIn text := ⟨[], rfl, rfl⟩

lemma skip (h : cursor.StandsIn text) (n : Nat) : (cursor.skip n).StandsIn text := by
  obtain ⟨read, rfl, hposition⟩ := h
  refine ⟨read ++ cursor.rest.take n, ?_, ?_⟩
  · rw [Cursor.skip, List.append_assoc, List.take_append_drop]
  · rw [Cursor.skip, hposition, Position.advanceBy_behind]

lemma skipTrivia {ahead : Cursor} (h : cursor.StandsIn text)
    (hahead : cursor.skipTrivia = .ok ahead) : ahead.StandsIn text := by
  obtain ⟨read, rfl, hread⟩ := h
  obtain ⟨front, hrest, hposition, -⟩ := exists_trivia_of_skipTrivia hahead
  refine ⟨read ++ front, ?_, ?_⟩
  · rw [hrest, List.append_assoc]
  · rw [hposition, hread, Position.advanceBy_behind]

/-- A token is cut out of the text. -/
lemma token {kind : TokenKind} {chars : List Char} {position : Position}
    (h : cursor.StandsIn text) (hnext : next file ending cursor = .token kind chars position rest) :
    rest.StandsIn text ∧
      ∃ before, text = before ++ chars ++ rest.rest ∧ position = .behind before := by
  obtain ⟨read, rfl, hread⟩ := h
  obtain ⟨p, hp, -, -, hplace, hrest, hbehind⟩ := exists_piece_of_next hread hnext
  have hchars : p.chars = p.gap ++ chars := by rw [Piece.chars, hp, String.toList_ofList]
  have hposition : position = .behind (read ++ p.gap) := by
    rw [hp] at hplace
    exact congrArg Location.position hplace
  refine ⟨⟨read ++ p.chars, ?_, hbehind⟩, read ++ p.gap, ?_, hposition⟩
  · rw [hrest, List.append_assoc]
  · rw [hrest, hchars]
    simp only [List.append_assoc]

/-- Behind a problem, too, the scanner stands in the text. -/
lemma failed {error : ScanError} (h : cursor.StandsIn text)
    (hnext : next file ending cursor = .failed error rest) : rest.StandsIn text := by
  rw [next] at hnext
  split at hnext
  · split at hnext
    · cases hnext
      exact h.skip _
    · cases hnext
      exact h.skip _
  · rename_i ahead hahead
    have hstands := h.skipTrivia hahead
    split at hnext
    · rename_i hrest
      rw [atEnd.eq_def] at hnext
      split at hnext
      · cases hnext
      · cases hnext
        obtain ⟨read, htext, hposition⟩ := hstands
        exact ⟨read, by rw [htext, hrest], hposition⟩
    · rw [scanBite.eq_def] at hnext
      dsimp only at hnext
      split at hnext
      · cases hnext
        exact hstands.skip _
      · split at hnext
        · cases hnext
        · cases hnext
          exact hstands.skip _

end Cursor.StandsIn

/-- **Every token comes from a step of the scanner** that starts in the text. -/
theorem exists_next_of_mem_lexemesFrom {problems : Nat} {t : Token} (hcursor : cursor.StandsIn text)
    (hkind : t.kind ≠ .endOfInput) (h : .ok t ∈ lexemesFrom file ending problems cursor []) :
    ∃ (start rest : Cursor) (chars : List Char), start.StandsIn text ∧
      next file ending start = .token t.kind chars t.location.position rest ∧
      t.text.toList = chars ∧ t.location.file = file := by
  -- the induction is the scanner's own: on the problems still allowed, then on what is ahead
  refine lexemesFrom.induct file ending (motive := fun problems cursor _ =>
    cursor.StandsIn text → .ok t ∈ lexemesFrom file ending problems cursor [] → _)
    ?_ ?_ ?_ ?_ problems cursor [] hcursor h
  · intro cursor _ _ hmem
    simp [lexemesFrom] at hmem
  · intro cursor _ problems position hnext _ hmem
    rw [lexemesFrom_succ, hnext] at hmem
    obtain rfl : t = _ := by simpa using hmem
    exact absurd rfl hkind
  · intro cursor _ problems kind chars position rest hnext ih hcursor hmem
    rw [lexemesFrom_of_token hnext] at hmem
    rcases List.mem_cons.mp hmem with ht | hmem
    · obtain rfl := Except.ok.inj ht
      exact ⟨cursor, rest, chars, hcursor, hnext, String.toList_ofList, rfl⟩
    · exact ih (hcursor.token hnext).1 hmem
  · intro cursor _ problems error rest hnext ih hcursor hmem
    rw [lexemesFrom_of_failed hnext] at hmem
    exact ih (hcursor.failed hnext) (List.mem_of_ne_of_mem (by simp) hmem)

/-- A number that is scanned has one of the forms, and stops before what is behind it. -/
lemma exists_spells_of_next {chars : List Char} {position : Position}
    (h : next file ending cursor = .token .number chars position rest) :
    ∃ (form : NumberForm) (negative : Bool), form.Spells negative chars ∧
      ∀ c ∈ rest.rest.head?, form.StopsBefore c := by
  obtain ⟨-, c, cs, -, -, -, -, hkind, rfl, rfl⟩ := exists_bite_of_next h
  obtain ⟨form, negative, text, behind, rfl, hextra, hspells, hstops⟩ := exists_spells_of_bite hkind
  rw [hextra, List.take_left, List.drop_left]
  exact ⟨form, negative, hspells, hstops⟩

end Steps

/-! ## What stands behind a number -/

/-- Only a number that is decided without a look at the next digit may have one behind it. -/
lemma NumberForm.StopsBefore.of_digit {form : NumberForm} {c : Char} (h : form.StopsBefore c)
    (hc : Text.isDecimalDigit c = true) :
    form = .suffixed ∨ form = .hexadecimal ∧ isHexDigit c = false := by
  have hgoes := h.1
  cases form with
  | hexadecimal => exact .inr ⟨rfl, hgoes⟩
  | whole => exact absurd hgoes (by simp [goesOn, hc])
  | pointed => exact absurd hgoes (by simp [goesOn, hc])
  | suffixed => exact .inl rfl

/-- **What stands behind a number.**  Every number that is scanned stands in the script at the place
that it names, and the character behind it is no letter, no underscore and no point.  It may be a
digit, and is one exactly where a number with a suffix runs into digits, or a hexadecimal one into a
digit that is not hexadecimal. -/
theorem Source.lexemes_number (s : Source) (problems : Nat) (t : Token)
    (hmem : .ok t ∈ s.lexemes problems) (hkind : t.kind = .number) :
    ∃ (before behind : List Char) (form : NumberForm) (negative : Bool),
      s.text = before ++ t.text.toList ++ behind ∧ t.location = ⟨s.name, .behind before⟩ ∧
      form.Spells negative t.text.toList ∧
      (∀ c ∈ behind.head?, Text.isLetter c = false ∧ c ≠ '_' ∧ c ≠ '.') ∧
      (¬ Ends behind ↔ ∃ c ∈ behind.head?, Text.isDecimalDigit c = true ∧
        (form = .suffixed ∨ form = .hexadecimal ∧ isHexDigit c = false)) := by
  obtain ⟨start, rest, chars, hstart, hnext, rfl, hfile⟩ :=
    exists_next_of_mem_lexemesFrom (.start s.text) (by simp [hkind]) hmem
  obtain ⟨-, before, htext, hposition⟩ := hstart.token hnext
  rw [hkind] at hnext
  obtain ⟨form, negative, hspells, hstops⟩ := exists_spells_of_next hnext
  have hbehind : ∀ c ∈ rest.rest.head?, Text.isLetter c = false ∧ c ≠ '_' ∧ c ≠ '.' :=
    fun c hc => (runsOn_eq_false_iff c).mp (hstops c hc).2
  refine ⟨before, rest.rest, form, negative, htext, ?_, hspells, hbehind, ?_⟩
  · rw [← hposition, ← hfile]
  constructor
  · intro hends
    simp only [Ends, not_forall] at hends
    obtain ⟨c, hc, hgoes⟩ := hends
    obtain ⟨hletter, hunderscore, hpoint⟩ := hbehind c hc
    have hdigit : Text.isDecimalDigit c = true := by
      simpa [continuesName, hletter, hunderscore, hpoint] using hgoes
    exact ⟨c, hc, hdigit, (hstops c hc).of_digit hdigit⟩
  · rintro ⟨c, hc, hdigit, -⟩ hends
    have hname := (hends c hc).1
    simp [continuesName, hdigit] at hname

/-- A text with a digit behind a suffix, and a digit of another script behind a hexadecimal one. -/
def Source.touching : Source where
  name := "touching"
  text := "1.5f1 0x2\u0663".toList

/-- The tokens of that text. -/
def Source.touchingTokens : List Token :=
  [⟨.number, "1.5f", ⟨"touching", ⟨1, 1⟩⟩⟩, ⟨.number, "1", ⟨"touching", ⟨1, 5⟩⟩⟩,
    ⟨.number, "0x2", ⟨"touching", ⟨1, 7⟩⟩⟩, ⟨.number, "\u0663", ⟨"touching", ⟨1, 10⟩⟩⟩,
    ⟨.endOfInput, "", ⟨"touching", ⟨1, 11⟩⟩⟩]

lemma Source.lexemes_touching : touching.lexemes 1 = touchingTokens.map .ok := by
  rw [lexemes, lexemesFrom_eq_lexemesWithin _ _ (Nat.lt_succ_self _)]
  decide +kernel

theorem Source.lexemes_number_touching :
    .ok ⟨.number, "0x2", ⟨"touching", ⟨1, 7⟩⟩⟩ ∈ touching.lexemes 1 ∧
      ∃ (before behind : List Char) (form : NumberForm) (negative : Bool),
        touching.text = before ++ "0x2".toList ++ behind ∧
        (⟨"touching", ⟨1, 7⟩⟩ : Location) = ⟨"touching", .behind before⟩ ∧
        form.Spells negative "0x2".toList ∧
        (∀ c ∈ behind.head?, Text.isLetter c = false ∧ c ≠ '_' ∧ c ≠ '.') ∧
        (¬ Ends behind ↔ ∃ c ∈ behind.head?, Text.isDecimalDigit c = true ∧
          (form = .suffixed ∨ form = .hexadecimal ∧ isHexDigit c = false)) := by
  have hmem : .ok ⟨.number, "0x2", ⟨"touching", ⟨1, 7⟩⟩⟩ ∈ touching.lexemes 1 := by
    rw [lexemes_touching]
    simp [touchingTokens]
  exact ⟨hmem, lexemes_number touching 1 _ hmem rfl⟩

/-- **Two numbers in one run of characters**: directly behind the first of them is a digit. -/
theorem Source.lexemes_touching_digit :
    ∃ t, .ok t ∈ touching.lexemes 1 ∧ t.kind = .number ∧ t.location.position = .behind [] ∧
      ∃ c behind, touching.text = t.text.toList ++ c :: behind ∧
        Text.isDecimalDigit c = true := by
  refine ⟨⟨.number, "1.5f", ⟨"touching", ⟨1, 1⟩⟩⟩, ?_, rfl, rfl, '1', " 0x2\u0663".toList, ?_, ?_⟩
  · rw [lexemes_touching]
    simp [touchingTokens]
  · decide
  · decide

end RegisterScript
