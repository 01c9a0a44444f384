import RegisterScript.Proofs.Trivia

/-!
# Where tokens stand

The scanner counts lines and columns as it goes, and cuts its tokens out of what is ahead of it.
This file puts the tokens back: a text that is scanned to its end is its tokens, each at the place
that it names, with nothing but trivia between them.

**Places.**  `Position.behind` says what a place is without any counting along the way: a line is
the number of newlines before it, a column the number of characters since the last of them.  Moving
on from the place behind a text leads to the place behind the longer text
(`Position.advanceBy_behind`).

**Pieces.**  A token with the gap before it is a `Piece`, and `FallsInto` says everything about a
text that consists of pieces.  Each step of scanning adds a piece in front (`FallsInto.cons`), the
last one finds only trivia (`FallsInto.nil`), and so a whole scan takes the text apart
(`exists_fallsInto`).
-/

namespace RegisterScript

/-! ## Places -/

namespace Position

/-- The place behind a text that starts a file. -/
def behind (text : List Char) : Position where
  line := 1 + text.count '\n'
  column := 1 + (text.reverse.takeWhile (· ≠ '\n')).length

lemma advance_behind (text : List Char) (c : Char) :
    (behind text).advance c = behind (text ++ [c]) := by
  by_cases hc : c = '\n'
  · simp [behind, advance, hc, Nat.add_assoc]
  · simp [behind, advance, hc, Nat.add_assoc]

/-- **Counting along the way** leads to the same place. -/
lemma advanceBy_behind (text cs : List Char) :
    (behind text).advanceBy cs = behind (text ++ cs) := by
  induction cs generalizing text with
  | nil => rw [List.append_nil]; rfl
  | cons c cs ih =>
      have hstep : (behind text).advanceBy (c :: cs) = ((behind text).advance c).advanceBy cs := rfl
      rw [hstep, advance_behind, ih, List.append_assoc, List.singleton_append]

end Position

/-! ## Pieces -/

/-- A token with what stands between it and the token before. -/
structure Piece where
  gap : List Char
  token : Token

/-- The characters of a piece. -/
def Piece.chars (p : Piece) : List Char := p.gap ++ p.token.text.toList

/-- The text that stands behind `read` in a file consists of these pieces, and of what comes behind
the last of them. -/
structure FallsInto (file : String) (read text : List Char) (pieces : List Piece)
    (final : List Char) : Prop where
  /-- Nothing is lost, and nothing is there twice. -/
  whole : text = pieces.flatMap Piece.chars ++ final
  /-- Before each token there are only white space and whole comments. -/
  gaps : ∀ p ∈ pieces, Trivia p.gap
  /-- Behind the last token, too, but a line comment may end with the text. -/
  final : FinalTrivia final
  /-- There is something to each token. -/
  solid : ∀ p ∈ pieces, p.token.text ≠ "" ∧ p.token.kind ≠ .endOfInput
  /-- Each token names the place where its characters start. -/
  places : ∀ before p after, pieces = before ++ p :: after →
    p.token.location = ⟨file, .behind (read ++ before.flatMap Piece.chars ++ p.gap)⟩

namespace FallsInto

variable {file : String} {read : List Char}

lemma nil {final : List Char} (h : FinalTrivia final) : FallsInto file read final [] final where
  whole := rfl
  gaps := by simp
  final := h
  solid := by simp
  places := by simp

/-- A piece in front. -/
lemma cons {p : Piece} {text final : List Char} {pieces : List Piece} (hgap : Trivia p.gap)
    (hsolid : p.token.text ≠ "" ∧ p.token.kind ≠ .endOfInput)
    (hplace : p.token.location = ⟨file, .behind (read ++ p.gap)⟩)
    (h : FallsInto file (read ++ p.chars) text pieces final) :
    FallsInto file read (p.chars ++ text) (p :: pieces) final where
  whole := by rw [h.whole, List.flatMap_cons, List.append_assoc]
  gaps := List.forall_mem_cons.mpr ⟨hgap, h.gaps⟩
  final := h.final
  solid := List.forall_mem_cons.mpr ⟨hsolid, h.solid⟩
  places := by
    intro before q after hsplit
    cases before with
    | nil =>
        obtain ⟨rfl, -⟩ := List.cons.inj hsplit
        simpa using hplace
    | cons first before =>
        obtain ⟨rfl, hrest⟩ := List.cons.inj hsplit
        have hlater := h.places before q after hrest
        simpa using hlater

end FallsInto

/-! ## Scans -/

section Scans

variable {file : String} {ending : Ending} {problems : Nat}

/-- **One step of scanning** takes a piece.  The scanner stands behind what it has read, before the
step and after it. -/
lemma exists_piece_of_next {cursor rest : Cursor} {read text : List Char} {kind : TokenKind}
    {position : Position} (hread : cursor.position = .behind read)
    (h : next file ending cursor = .token kind text position rest) :
    ∃ p : Piece, p.token = ⟨kind, String.ofList text, ⟨file, position⟩⟩ ∧ Trivia p.gap ∧
      (p.token.text ≠ "" ∧ p.token.kind ≠ .endOfInput) ∧
      p.token.location = ⟨file, .behind (read ++ p.gap)⟩ ∧
      cursor.rest = p.chars ++ rest.rest ∧ rest.position = .behind (read ++ p.chars) := by
  have hkind : kind ≠ .endOfInput := by
    rintro rfl
    exact scanned_of_next h
  obtain ⟨gap, c, cs, hgap, hrest, rfl, -, -, rfl, rfl⟩ := exists_bite_of_next h
  rw [hread, Position.advanceBy_behind]
  refine ⟨⟨gap, _⟩, rfl, hgap, ⟨by simp, hkind⟩, rfl, ?_, ?_⟩
  · rw [hrest, Piece.chars, String.toList_ofList, List.append_assoc, List.cons_append,
      List.take_append_drop]
  · rw [Position.advanceBy_behind, Piece.chars, String.toList_ofList, List.append_assoc]

/-- **A scan without a problem takes the text apart.**  The induction is on the length of what is
ahead of the scanner, which always stands behind what it has read. -/
theorem exists_fallsInto {cursor : Cursor} {read : List Char}
    (hread : cursor.position = .behind read) {tokens : List Token}
    (h : lexemesFrom file ending (problems + 1) cursor [] = tokens.map .ok) :
    ∃ pieces final, FallsInto file read cursor.rest pieces final ∧
      tokens = pieces.map Piece.token
        ++ [⟨.endOfInput, "", ⟨file, .behind (read ++ cursor.rest)⟩⟩] := by
  induction hlength : cursor.rest.length using Nat.strong_induction_on
    generalizing cursor read tokens with
  | _ length ih =>
      cases hnext : next file ending cursor with
      | finished position =>
          obtain ⟨hfinal, hposition⟩ := finalTrivia_of_next hnext
          rw [hread, Position.advanceBy_behind] at hposition
          rw [lexemesFrom_succ, hnext] at h
          obtain ⟨last, rfl, hlast⟩ := List.map_eq_singleton_iff.mp h.symm
          refine ⟨[], cursor.rest, .nil hfinal, ?_⟩
          rw [← Except.ok.inj hlast.symm, hposition]
          rfl
      | token kind text position rest =>
          have hshorter := length_of_next_token hnext
          obtain ⟨p, hp, hgap, hsolid, hplace, hrest, hbehind⟩ := exists_piece_of_next hread hnext
          rw [lexemesFrom_of_token hnext, ← hp] at h
          obtain ⟨t, tokens, rfl, ht, htokens⟩ := List.map_eq_cons_iff.mp h.symm
          obtain ⟨pieces, final, hpieces, rfl⟩ :=
            ih rest.rest.length (hlength ▸ hshorter) hbehind htokens.symm rfl
          rw [hrest, Except.ok.inj ht, ← List.append_assoc]
          exact ⟨p :: pieces, final, .cons hgap hsolid hplace hpieces, rfl⟩
      | failed error rest =>
          rw [lexemesFrom_succ, hnext] at h
          dsimp only at h
          rw [lexemesFrom_eq_append] at h
          obtain ⟨t, -, -, ht, -⟩ := List.map_eq_cons_iff.mp h.symm
          cases ht

end Scans

/-- **Nothing is lost, invented or misplaced.**  If a script is scanned to its end without a
problem, the tokens up to the end of input take it apart: they stand in it in their order, each at
the place that it names, with white space and whole comments between them; and the end of input is
the place behind the whole text. -/
theorem Source.lexemes_fallsInto (s : Source) (problems : Nat) (tokens : List Token)
    (h : s.lexemes (problems + 1) = tokens.map .ok) :
    ∃ pieces final, FallsInto s.name [] s.text pieces final ∧
      tokens = pieces.map Piece.token ++ [⟨.endOfInput, "", ⟨s.name, .behind s.text⟩⟩] :=
  exists_fallsInto rfl h

/-- A text whose tokens touch each other or are apart by comments of both kinds, the last of which
has no newline. -/
def Source.spread : Source where
  name := "spread"
  text := "/* one\n **/ μ_1;uv-.5F,\u00a00x1f;// two\n\nmacro// three".toList

/-- The tokens of that text. -/
def Source.spreadTokens : List Token :=
  [⟨.identifier, "μ_1", ⟨"spread", ⟨2, 6⟩⟩⟩, ⟨.punctuation, ";", ⟨"spread", ⟨2, 9⟩⟩⟩,
    ⟨.identifier, "uv", ⟨"spread", ⟨2, 10⟩⟩⟩, ⟨.number, "-.5F", ⟨"spread", ⟨2, 12⟩⟩⟩,
    ⟨.punctuation, ",", ⟨"spread", ⟨2, 16⟩⟩⟩, ⟨.number, "0x1f", ⟨"spread", ⟨2, 18⟩⟩⟩,
    ⟨.punctuation, ";", ⟨"spread", ⟨2, 22⟩⟩⟩, ⟨.keyword, "macro", ⟨"spread", ⟨4, 1⟩⟩⟩,
    ⟨.endOfInput, "", ⟨"spread", ⟨4, 14⟩⟩⟩]

theorem Source.lexemes_fallsInto_spread :
    spread.lexemes 1 = spreadTokens.map .ok ∧
      ∃ pieces final, FallsInto "spread" [] spread.text pieces final ∧
        spreadTokens = pieces.map Piece.token ++ [⟨.endOfInput, "", ⟨"spread", ⟨4, 14⟩⟩⟩] := by
  have hlexemes : spread.lexemes 1 = spreadTokens.map .ok := by
    rw [lexemes, lexemesFrom_eq_lexemesWithin _ _ (Nat.lt_succ_self _)]
    decide +kernel
  have hend : Position.behind spread.text = ⟨4, 14⟩ := by decide +kernel
  have hpieces := lexemes_fallsInto spread 0 spreadTokens hlexemes
  rw [hend] at hpieces
  exact ⟨hlexemes, hpieces⟩

end RegisterScript
