import RegisterScript.Proofs.Trivia

/-!
# Tokens that are written down with something between them

Whatever tokens are written down one behind the other, the scanner gives them back, as long as each
is kept apart from the next.  What keeps them apart does not matter.

**Tokens.**  `Symbol.WellFormed` says which symbols can be written at all: words, of which one is
the keyword, the four marks, and numbers of the four forms.  Each is scanned whole if what is behind
it ends it (`Symbol.WellFormed.scans`).

**Separators.**  Trivia ends whatever stands before it (`Trivia.ends`), and is then passed over.  So
a text can be scanned from its end, token by token (`scans_rendered`).
-/

namespace RegisterScript

/-! ## Tokens -/

/-- The symbols that can be written down. -/
inductive Symbol.WellFormed : Symbol → Prop
  | word {c : Char} {more : List Char} (hc : startsName c = true)
      (hmore : ∀ d ∈ more, continuesName d = true) :
      WellFormed ⟨if c :: more = keyword then .keyword else .identifier, String.ofList (c :: more)⟩
  | mark {c : Char} (hc : isPunctuation c = true) : WellFormed ⟨.punctuation, String.singleton c⟩
  | number {form : NumberForm} {negative : Bool} {text : List Char}
      (h : form.Spells negative text) : WellFormed ⟨.number, String.ofList text⟩

/-- **A token is given back**, if what is behind it ends it. -/
lemma Symbol.WellFormed.scans {symbol : Symbol} (hsymbol : symbol.WellFormed) {cs : List Char}
    (hends : Ends cs) {symbols : List Symbol} (h : Scans cs symbols) :
    Scans (symbol.text.toList ++ cs) (symbol :: symbols) := by
  cases hsymbol with
  | word hc hmore =>
      rw [String.toList_ofList]
      exact .word hc hmore hends h
  | mark hc => simpa using h.mark hc
  | number hspells =>
      obtain ⟨c, more, rfl⟩ := hspells.exists_cons
      rw [String.toList_ofList]
      exact .number hspells hends h

/-! ## Separators -/

lemma continuesName_eq_false_of_isBlank {c : Char} (h : Text.isBlank c = true) :
    continuesName c = false := by
  rw [Bool.eq_false_iff]
  intro hname
  simp only [continuesName, Bool.or_eq_true, decide_eq_true_eq] at hname
  rcases hname with (hletter | hdigit) | rfl
  · rw [isBlank_eq_false_of_isLetter hletter] at h
    cases h
  · rw [isBlank_eq_false_of_isDecimalDigit hdigit] at h
    cases h
  · exact absurd h (by decide)

lemma WholeComment.exists_slash {front : List Char} (h : WholeComment front) :
    ∃ more, front = '/' :: more := by
  cases h with
  | line => exact ⟨_, rfl⟩
  | block => exact ⟨_, rfl⟩

/-- **Trivia ends whatever stands before it.** -/
lemma Trivia.ends {gap : List Char} (h : Trivia gap) (hne : gap ≠ []) (cs : List Char) :
    Ends (gap ++ cs) := by
  cases h with
  | nil => exact absurd rfl hne
  | @blank c gap hc _ =>
      rintro d hd
      obtain rfl : c = d := by simpa using hd
      refine ⟨continuesName_eq_false_of_isBlank hc, ?_⟩
      rintro rfl
      exact absurd hc (by decide)
  | comment hfront _ =>
      obtain ⟨more, rfl⟩ := hfront.exists_slash
      rintro d hd
      obtain rfl : '/' = d := by simpa using hd
      decide

/-- The texts of the symbols, with a gap behind each but the last. -/
def rendered : List Symbol → (gaps : List (List Char)) → List Char
  | symbol :: symbol' :: symbols, gap :: gaps =>
    symbol.text.toList ++ gap ++ rendered (symbol' :: symbols) gaps
  | symbols, _ => symbols.flatMap fun symbol => symbol.text.toList

/-- **Tokens with separators between them are given back**, and then the end of the text. -/
lemma scans_rendered {symbols : List Symbol} {gaps : List (List Char)}
    (hsymbols : ∀ symbol ∈ symbols, symbol.WellFormed)
    (hgaps : ∀ gap ∈ gaps, Trivia gap ∧ gap ≠ []) (hlength : symbols.length ≤ gaps.length + 1) :
    Scans (rendered symbols gaps) (symbols ++ [⟨.endOfInput, ""⟩]) := by
  induction symbols generalizing gaps with
  | nil => simpa [rendered] using Scans.nil
  | cons symbol symbols ih =>
      have hsymbol := hsymbols symbol (by simp)
      cases symbols with
      | nil =>
          have hends : Ends [] := by simp [Ends]
          simpa [rendered] using hsymbol.scans hends Scans.nil
      | cons symbol' symbols =>
          cases gaps with
          | nil => simp at hlength
          | cons gap gaps =>
              obtain ⟨htrivia, hne⟩ := hgaps gap (by simp)
              have hrest := ih (fun s hs => hsymbols s (List.mem_cons_of_mem _ hs))
                (fun g hg => hgaps g (List.mem_cons_of_mem _ hg)) (by simpa using hlength)
              rw [rendered, List.append_assoc, List.cons_append]
              exact hsymbol.scans (htrivia.ends hne _) (hrest.trivia htrivia)

/-- **Scanning undoes rendering.**  However well-formed tokens are kept apart, by white space, by
block comments or by line comments with their newline, the scanner finds them again, of the same
kinds and with the same texts, and then the end of the text, without a problem. -/
theorem Source.lexemes_rendered (name : String) (symbols : List Symbol) (gaps : List (List Char))
    (hsymbols : ∀ symbol ∈ symbols, symbol.WellFormed)
    (hgaps : ∀ gap ∈ gaps, Trivia gap ∧ gap ≠ []) (hlength : symbols.length ≤ gaps.length + 1) :
    ∃ tokens : List Token, tokens.map Token.symbol = symbols ++ [⟨.endOfInput, ""⟩] ∧
      Source.lexemes ⟨name, rendered symbols gaps, .complete⟩ 1 = tokens.map .ok :=
  scans_rendered hsymbols hgaps hlength name {}

/-- Tokens of every kind, numbers in every form. -/
def crowd : List Symbol :=
  [⟨.keyword, "macro"⟩, ⟨.identifier, "μ_1"⟩, ⟨.punctuation, "\x7b"⟩, ⟨.number, "-0X0f"⟩,
    ⟨.number, "07"⟩, ⟨.number, "-."⟩, ⟨.number, "1.5F"⟩]

/-- Separators of every kind, one of them made up of several. -/
def crowdGaps : List (List Char) :=
  ["/*/ **/".toList, ['\u00a0'], "//\n".toList, ['\n'], [' '], "\t/***/ ".toList]

lemma wellFormed_crowd : ∀ symbol ∈ crowd, symbol.WellFormed := by
  have hdigits : ∀ digits : List Char, digits.all Text.isDecimalDigit = true →
      ∀ d ∈ digits, Text.isDecimalDigit d = true := fun _ => List.all_eq_true.mp
  have hseven : NumberForm.whole.Magnitude ['0', '7'] :=
    .whole (by simp) (hdigits ['0', '7'] (by decide))
  have hpoint : NumberForm.pointed.Magnitude ['.'] := .pointed (hdigits [] rfl) (hdigits [] rfl)
  have hsuffix : NumberForm.suffixed.Magnitude ['1', '.', '5', 'F'] :=
    .suffixed (hdigits ['1'] (by decide)) (hdigits ['5'] (by decide)) (.inr rfl)
  have hhex : NumberForm.hexadecimal.Magnitude ['0', 'X', '0', 'f'] :=
    .hexadecimal (.inr rfl) (by simp) (List.all_eq_true.mp (by decide))
  have hmacro : ∀ d ∈ "acro".toList, continuesName d = true := List.all_eq_true.mp (by decide)
  have hmu : ∀ d ∈ "_1".toList, continuesName d = true := List.all_eq_true.mp (by decide)
  simp only [crowd, List.forall_mem_cons]
  refine ⟨.word (by decide : startsName 'm' = true) hmacro,
    .word (by decide : startsName 'μ' = true) hmu,
    .mark (by decide : isPunctuation '\x7b' = true), .number ⟨_, hhex, (rfl : _ = signed true _)⟩,
    .number ⟨_, hseven, (rfl : _ = signed false _)⟩, .number ⟨_, hpoint, (rfl : _ = signed true _)⟩,
    .number ⟨_, hsuffix, (rfl : _ = signed false _)⟩, by simp⟩

lemma trivia_crowdGaps : ∀ gap ∈ crowdGaps, Trivia gap ∧ gap ≠ [] := by
  have hblock : WholeComment "/*/ **/".toList :=
    .block (by decide : ¬ closingMark <:+: ['/', ' ', '*'])
  have hline : WholeComment "//\n".toList := .line (by simp : '\n' ∉ [])
  have hstars : WholeComment "/***/".toList := .block (by decide : ¬ closingMark <:+: ['*'])
  have hblank : Trivia [' '] := .blank (by decide) .nil
  simp only [crowdGaps, List.forall_mem_cons]
  refine ⟨⟨.comment hblock .nil, by decide⟩, ⟨.blank (by decide) .nil, by decide⟩,
    ⟨.comment hline .nil, by decide⟩, ⟨.blank (by decide) .nil, by decide⟩, ⟨hblank, by decide⟩,
    ⟨.blank (by decide) (.comment hstars hblank), by decide⟩, by simp⟩

theorem Source.lexemes_rendered_crowd :
    (∀ symbol ∈ crowd, symbol.WellFormed) ∧ (∀ gap ∈ crowdGaps, Trivia gap ∧ gap ≠ []) ∧
      crowd.length ≤ crowdGaps.length + 1 ∧
      ∃ tokens : List Token, tokens.map Token.symbol = crowd ++ [⟨.endOfInput, ""⟩] ∧
        Source.lexemes ⟨"crowd", rendered crowd crowdGaps, .complete⟩ 1 = tokens.map .ok :=
  ⟨wellFormed_crowd, trivia_crowdGaps, by decide,
    lexemes_rendered "crowd" crowd crowdGaps wellFormed_crowd trivia_crowdGaps (by decide)⟩

end RegisterScript
