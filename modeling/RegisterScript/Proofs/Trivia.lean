import Mathlib.Data.List.TakeWhile
import RegisterScript.Proofs.Scanning

/-!
# What stands between tokens

White space and comments are passed over, and it does not matter how many there are.  `Trivia` says
what they are without the scanner: blanks and complete comments, in any order.  Only at the very end
of a text may a line comment be without its newline.

**Passed over.**  `Trivia.skipTrivia`, and for a scan `Trivia.next`.

**Found.**  What the scanner has passed over before a token is trivia
(`exists_trivia_of_skipTrivia`), so every step of scanning starts with trivia and goes on with a
bite (`exists_bite_of_next`).

**Bites.**  What is bitten off is decided by the characters that belong together and by the one
behind them.  If that one ends every token, it does not matter which it is (`bite_append`).
-/

namespace RegisterScript

/-! ## Comments -/

/-- The mark that closes a block comment. -/
def closingMark : List Char := ['*', '/']

/-- A block comment. -/
def blockComment (body : List Char) : List Char := '/' :: '*' :: (body ++ closingMark)

/-- A comment with its end. -/
inductive WholeComment : List Char → Prop
  | line {line : List Char} (h : '\n' ∉ line) : WholeComment (lineComment line)
  | block {body : List Char} (h : ¬ closingMark <:+: body) : WholeComment (blockComment body)

/-- The star that may stand before a text. -/
def starred (star : Bool) (text : List Char) : List Char := if star then '*' :: text else text

lemma starred_suffix (star : Bool) (c : Char) (text : List Char) :
    starred (c = '*') text <:+ starred star (c :: text) := by
  have hcons : starred (c = '*') text <:+ c :: text := by
    by_cases hc : c = '*'
    · simp [starred, hc]
    · simp [starred, hc]
  cases star with
  | false => exact hcons
  | true => exact hcons.trans (List.suffix_cons _ _)

/-- A closing mark starts before the first character, or it is behind it. -/
lemma closingMark_infix_starred_cons {star : Bool} {c : Char} {text : List Char}
    (h : closingMark <:+: starred star (c :: text)) :
    (star = true ∧ c = '/') ∨ closingMark <:+: starred (c = '*') text := by
  have hcons : closingMark <:+: c :: text → closingMark <:+: starred (c = '*') text := by
    intro h
    rcases List.infix_cons_iff.mp h with h | h
    · obtain ⟨rfl, -⟩ := List.cons_prefix_cons.mp h
      exact h.isInfix
    · exact h.trans (by by_cases hc : c = '*' <;> simp [starred, hc, List.infix_cons])
  cases star with
  | false => exact .inr (hcons h)
  | true =>
      rcases List.infix_cons_iff.mp h with h | h
      · obtain ⟨-, h⟩ := List.cons_prefix_cons.mp h
        exact .inl ⟨rfl, (List.cons_prefix_cons.mp h).1.symm⟩
      · exact .inr (hcons h)

/-- A text without a closing mark closes nothing. -/
lemma commentLength?_append {star : Bool} {text : List Char}
    (h : ¬ closingMark <:+: starred star text) (count : Nat) (rest : List Char) :
    commentLength? star count (text ++ '*' :: rest)
      = commentLength? true (count + text.length + 1) rest := by
  induction text generalizing star count with
  | nil => simp [commentLength?]
  | cons c text ih =>
      have hopen : ¬ (star = true ∧ c = '/') := by
        rintro ⟨rfl, rfl⟩
        exact h (List.prefix_append closingMark text).isInfix
      have hmore : ¬ closingMark <:+: starred (c = '*') text :=
        fun hmark => h (hmark.trans (starred_suffix star c text).isInfix)
      have hrest := ih hmore (count + 1)
      rw [List.cons_append, commentLength?, if_neg (by simpa using hopen), hrest, List.length_cons]
      congr 1
      omega

lemma commentLength?_block {body : List Char} (h : ¬ closingMark <:+: body) (rest : List Char) :
    commentLength? false 0 (body ++ closingMark ++ rest) = some (body.length + 2) := by
  have hopen : ¬ closingMark <:+: starred false body := h
  have happend := commentLength?_append hopen 0 ('/' :: rest)
  simpa [closingMark, commentLength?] using happend

/-- What has been closed ends at the first closing mark. -/
lemma exists_text_of_commentLength? {star : Bool} {count n : Nat} {cs : List Char}
    (h : commentLength? star count cs = some n) :
    ∃ text rest, cs = text ++ '/' :: rest ∧ n = count + text.length + 1 ∧
      ¬ closingMark <:+: starred star text ∧ ['*'] <:+ starred star text := by
  induction cs generalizing star count with
  | nil => cases h
  | cons c cs ih =>
      rw [commentLength?] at h
      split_ifs at h with hclosed
      · simp only [Bool.and_eq_true, decide_eq_true_eq] at hclosed
        obtain ⟨rfl, rfl⟩ := hclosed
        refine ⟨[], cs, rfl, by simpa using h.symm, ?_, List.suffix_rfl⟩
        intro hmark
        simpa [closingMark, starred] using hmark.length_le
      · obtain ⟨text, rest, rfl, rfl, hopen, hlast⟩ := ih h
        refine ⟨c :: text, rest, rfl, by simp only [List.length_cons]; omega, ?_,
          hlast.trans (starred_suffix star c text)⟩
        intro hmark
        rcases closingMark_infix_starred_cons hmark with ⟨hstar, hc⟩ | hmark
        · exact hclosed (by simp [hstar, hc])
        · exact hopen hmark

/-- **A comment ahead is a whole one**, or a line comment that the text ends with. -/
lemma exists_of_comment_eq_closed {cs : List Char} {extra : Nat} (h : comment cs = .closed extra) :
    (∃ front rest, WholeComment front ∧ cs = front ++ rest ∧ front.length = extra + 1) ∨
      ∃ line, '\n' ∉ line ∧ cs = '/' :: '/' :: line ∧ cs.length ≤ extra + 1 := by
  rw [comment.eq_def] at h
  split at h
  · rename_i cs
    obtain rfl := Comment.closed.inj h
    have hline : '\n' ∉ cs.takeWhile (· ≠ '\n') := fun hmem => by
      simpa using List.mem_takeWhile_imp hmem
    have hsplit := List.takeWhile_append_dropWhile (p := (· ≠ '\n')) (l := cs)
    cases hrest : cs.dropWhile (· ≠ '\n') with
    | nil =>
        rw [hrest, List.append_nil] at hsplit
        rw [hsplit] at hline ⊢
        exact .inr ⟨cs, hline, rfl, by simp⟩
    | cons c rest =>
        have hc : c = '\n' := by
          have hhead := List.head?_dropWhile_not (· ≠ '\n') cs
          rw [hrest] at hhead
          simpa using hhead
        refine .inl ⟨lineComment (cs.takeWhile (· ≠ '\n')), rest, .line hline, ?_, ?_⟩
        · conv_lhs => rw [← hsplit, hrest, hc]
          simp [lineComment]
        · simp [lineComment]
  · rename_i cs
    split at h
    · rename_i n hn
      obtain rfl := Comment.closed.inj h
      obtain ⟨text, rest, rfl, rfl, hopen, ⟨body, hbody⟩⟩ := exists_text_of_commentLength? hn
      obtain rfl : body ++ ['*'] = text := hbody
      refine .inl ⟨blockComment body, rest, .block ?_, by simp [blockComment, closingMark], ?_⟩
      · exact fun hmark => hopen (hmark.trans (List.prefix_append body ['*']).isInfix)
      · simp [blockComment, closingMark]
    · cases h
  · cases h

lemma WholeComment.exists_closed {front : List Char} (h : WholeComment front) (cs : List Char) :
    ∃ extra, comment (front ++ cs) = .closed extra ∧ front.length = extra + 1 := by
  cases h with
  | @line line hline => exact ⟨_, comment_lineComment hline cs, by simp [lineComment]⟩
  | @block body hbody =>
      refine ⟨body.length + 3, ?_, by simp [blockComment, closingMark]⟩
      simp only [blockComment, List.cons_append, comment, commentLength?_block hbody]

/-! ## Trivia -/

lemma Position.advanceBy_append (position : Position) (cs cs' : List Char) :
    position.advanceBy (cs ++ cs') = (position.advanceBy cs).advanceBy cs' :=
  List.foldl_append

/-- White space and whole comments. -/
inductive Trivia : List Char → Prop
  | nil : Trivia []
  | blank {c : Char} {cs : List Char} (hc : Text.isBlank c = true) (h : Trivia cs) :
      Trivia (c :: cs)
  | comment {front cs : List Char} (hfront : WholeComment front) (h : Trivia cs) :
      Trivia (front ++ cs)

/-- What may stand behind the last token of a text: a line comment need not have its newline. -/
def FinalTrivia (cs : List Char) : Prop :=
  Trivia cs ∨ ∃ front line, Trivia front ∧ '\n' ∉ line ∧ cs = front ++ '/' :: '/' :: line

namespace Trivia

variable {front : List Char}

lemma of_blanks {cs : List Char} (h : ∀ c ∈ cs, Text.isBlank c = true) : Trivia cs := by
  induction cs with
  | nil => exact .nil
  | cons c cs ih => exact .blank (h c (by simp)) (ih fun d hd => h d (by simp [hd]))

lemma takeWhile_isBlank (cs : List Char) : Trivia (cs.takeWhile Text.isBlank) :=
  of_blanks fun _ hc => List.mem_takeWhile_imp hc

lemma append {cs : List Char} (h : Trivia front) (h' : Trivia cs) : Trivia (front ++ cs) := by
  induction h with
  | nil => exact h'
  | blank hc _ ih => exact .blank hc ih
  | comment hfront _ ih =>
      rw [List.append_assoc]
      exact .comment hfront ih

lemma append_final {cs : List Char} (h : Trivia front) (h' : FinalTrivia cs) :
    FinalTrivia (front ++ cs) := by
  rcases h' with h' | ⟨front', line, h', hline, rfl⟩
  · exact .inl (h.append h')
  · exact .inr ⟨front ++ front', line, h.append h', hline, by rw [List.append_assoc]⟩

/-- **Trivia is passed over.** -/
lemma skipTrivia (h : Trivia front) (position : Position) (cs : List Char) :
    Cursor.skipTrivia ⟨position, front ++ cs⟩
      = Cursor.skipTrivia ⟨position.advanceBy front, cs⟩ := by
  induction h generalizing position with
  | nil => rfl
  | blank hc _ ih => exact (skipTrivia_blank hc position _).trans (ih _)
  | @comment front rest hfront _ ih =>
      obtain ⟨extra, hclosed, hlength⟩ := hfront.exists_closed (rest ++ cs)
      rw [List.append_assoc, skipTrivia_of_closed hclosed hlength, ih, Position.advanceBy_append]

lemma next (h : Trivia front) (file : String) (ending : Ending) (position : Position)
    (cs : List Char) :
    RegisterScript.next file ending ⟨position, front ++ cs⟩
      = RegisterScript.next file ending ⟨position.advanceBy front, cs⟩ := by
  rw [RegisterScript.next, RegisterScript.next, h.skipTrivia]
  simp only [skip_length]

end Trivia

lemma Scans.trivia {front cs : List Char} {symbols : List Symbol} (hfront : Trivia front)
    (h : Scans cs symbols) : Scans (front ++ cs) symbols :=
  of_next_eq (fun file position => ⟨_, hfront.next file .complete position cs⟩) h

/-- Behind the last token there is the end of the text. -/
lemma FinalTrivia.scans {cs : List Char} (h : FinalTrivia cs) :
    Scans cs [⟨.endOfInput, ""⟩] := by
  rcases h with h | ⟨front, line, hfront, hline, rfl⟩
  · rw [← List.append_nil cs]
    exact Scans.nil.trivia h
  · refine Scans.trivia hfront (.of_next_eq (fun file position =>
      ⟨position.advanceBy ('/' :: '/' :: line), ?_⟩) Scans.nil)
    have hclosed : comment ('/' :: '/' :: line) = .closed (line.length + 2) := by
      have htake : line.takeWhile (· ≠ '\n') = line := by
        refine List.takeWhile_eq_self_iff.mpr fun c hc => decide_eq_true ?_
        rintro rfl
        exact hline hc
      rw [comment, htake]
    have hskip : Cursor.skip ⟨position, '/' :: '/' :: line⟩ (line.length + 2 + 1)
        = ⟨position.advanceBy ('/' :: '/' :: line), []⟩ := by
      rw [Cursor.skip, List.take_of_length_le (by simp), List.drop_of_length_le (by simp)]
    have hlength := skip_length position ('/' :: '/' :: line) []
    rw [List.append_nil] at hlength
    rw [next, next, skipTrivia_of_comment hclosed, hskip]
    simp only [hlength]

/-- Behind a newline a line comment is over, too. -/
lemma FinalTrivia.scans_newline {cs cs' : List Char} {symbols : List Symbol} (h : FinalTrivia cs)
    (hscans : Scans cs' symbols) : Scans (cs ++ '\n' :: cs') symbols := by
  rcases h with h | ⟨front, line, hfront, hline, rfl⟩
  · exact (hscans.blank (by decide)).trivia h
  · have hcomment := (hscans.comment hline).trivia hfront
    simpa [lineComment] using hcomment

/-- **What has been passed over is trivia**, and there is no more of it. -/
lemma exists_trivia_of_skipTrivia {cursor ahead : Cursor} (h : cursor.skipTrivia = .ok ahead) :
    ∃ front, cursor.rest = front ++ ahead.rest ∧
      ahead.position = cursor.position.advanceBy front ∧ FinalTrivia front ∧
      (ahead.rest ≠ [] → Trivia front) ∧ ∀ c ∈ ahead.rest.head?, Text.isBlank c = false := by
  fun_induction Cursor.skipTrivia cursor with
  | case1 cursor =>
      obtain rfl := Except.ok.inj h
      have hblanks := Trivia.takeWhile_isBlank cursor.rest
      refine ⟨_, List.takeWhile_append_dropWhile.symm, rfl, .inl hblanks, fun _ => hblanks, ?_⟩
      intro c hc
      change (cursor.rest.dropWhile Text.isBlank).head? = some c at hc
      have hhead := List.head?_dropWhile_not Text.isBlank cursor.rest
      rw [hc] at hhead
      simpa using hhead
  | case2 => cases h
  | case3 cursor start extra hcomment ih =>
      have hblanks := Trivia.takeWhile_isBlank cursor.rest
      have hsplit : cursor.rest = cursor.rest.takeWhile Text.isBlank ++ start.rest :=
        List.takeWhile_append_dropWhile.symm
      have hstart : start.position
          = cursor.position.advanceBy (cursor.rest.takeWhile Text.isBlank) := rfl
      obtain ⟨front, hrest, hposition, hfinal, htrivia, hhead⟩ := ih h
      rcases exists_of_comment_eq_closed hcomment with
        ⟨remark, rest, hremark, hahead, hlength⟩ | ⟨line, hline, hahead, hlength⟩
      · -- a whole comment: scanning has gone on right behind it
        have hskip : start.skip (extra + 1) = ⟨start.position.advanceBy remark, rest⟩ := by
          rw [Cursor.skip, hahead, ← hlength, List.take_left, List.drop_left]
        rw [hskip] at hrest hposition
        have hfront := hblanks.append (.comment hremark .nil)
        rw [List.append_nil] at hfront
        refine ⟨cursor.rest.takeWhile Text.isBlank ++ remark ++ front, ?_, ?_,
          hfront.append_final hfinal, fun hne => hfront.append (htrivia hne), hhead⟩
        · rw [List.append_assoc, List.append_assoc, ← hrest, ← hahead]
          exact hsplit
        · rw [hposition, hstart, Position.advanceBy_append, Position.advanceBy_append]
      · -- a line comment without its newline: nothing is left
        have hskip : start.skip (extra + 1) = ⟨start.position.advanceBy start.rest, []⟩ := by
          rw [Cursor.skip, List.take_of_length_le hlength, List.drop_of_length_le hlength]
        rw [hskip] at hrest hposition
        obtain ⟨rfl, hnil⟩ := List.append_eq_nil_iff.mp hrest.symm
        refine ⟨cursor.rest, by rw [hnil, List.append_nil], ?_, ?_, ?_, hhead⟩
        · rw [hposition, hstart, ← Position.advanceBy_append, ← Position.advanceBy_append,
            List.append_nil, ← hsplit]
        · exact .inr ⟨_, line, hblanks, hline, hahead ▸ hsplit⟩
        · exact fun hne => absurd hnil hne

/-! ## Bites -/

section Bites

variable {cs' : List Char}

lemma Ends.head {c : Char} (h : Ends (c :: cs')) :
    Text.isLetter c = false ∧ Text.isDecimalDigit c = false ∧ c ≠ '_' ∧ c ≠ '.' := by
  obtain ⟨hname, hpoint⟩ := h c (by simp)
  simpa [continuesName, hpoint, and_assoc] using hname

lemma Ends.takeWhile_of_append (h : Ends cs') {p : Char → Bool}
    (hp : ∀ c, p c = true → continuesName c = true) (cs : List Char) :
    (cs ++ cs').takeWhile p = cs.takeWhile p := by
  induction cs with
  | nil => exact h.takeWhile_append hp (by simp)
  | cons c cs ih => simp only [List.cons_append, List.takeWhile_cons, ih]

lemma decimalLength_append (h : Ends cs') (pointed : Bool) (cs : List Char) :
    decimalLength pointed (cs ++ cs') = decimalLength pointed cs := by
  fun_induction decimalLength pointed cs with
  | case1 pointed => exact decimalLength_of_stops (h.stopsBefore .whole) pointed
  | case2 pointed c cs hpoint ih => simp only [List.cons_append, decimalLength, hpoint, if_true, ih]
  | case3 pointed c cs hpoint hsuffix => simp [decimalLength, hpoint, hsuffix]
  | case4 pointed c cs hpoint hsuffix hdigit ih => simp [decimalLength, hpoint, hsuffix, hdigit, ih]
  | case5 pointed c cs hpoint hsuffix hdigit => simp [decimalLength, hpoint, hsuffix, hdigit]

lemma decimalLength_le (pointed : Bool) (cs : List Char) :
    decimalLength pointed cs ≤ cs.length := by
  fun_induction decimalLength pointed cs <;> simp_all

lemma boundedNumber_append (h : Ends cs') (extra : Nat) (rest : List Char) :
    boundedNumber extra (rest ++ cs') = boundedNumber extra rest := by
  cases rest with
  | cons c rest => rfl
  | nil => exact boundedNumber_of_stops (fun d hd => (h.stopsBefore .whole d hd).2) extra

lemma HexAhead.of_append (h : Ends cs') {c : Char} {cs : List Char}
    (hhex : HexAhead c (cs ++ cs')) : HexAhead c cs := by
  obtain ⟨hzero, x, hx, hmark⟩ := hhex
  refine ⟨hzero, x, ?_, hmark⟩
  cases cs with
  | cons d cs => exact hx
  | nil =>
      cases cs' with
      | nil => exact hx
      | cons d cs' =>
          obtain rfl : d = x := by simpa using hx
          have hletter : Text.isLetter d = true := by
            rcases hmark with rfl | rfl <;> decide
          rw [h.head.1] at hletter
          cases hletter

lemma biteUnsigned_append (h : Ends cs') (before : Nat) (c : Char) (cs : List Char) :
    biteUnsigned before (c :: (cs ++ cs')) = biteUnsigned before (c :: cs) := by
  by_cases hhex : HexAhead c cs
  · obtain ⟨rfl, x, hx, hmark⟩ := hhex
    obtain ⟨rest, rfl⟩ := List.head?_eq_some_iff.mp hx
    have hdigits := h.takeWhile_of_append (fun _ => continuesName_of_isHexDigit) rest
    have hle := (List.takeWhile_prefix (p := isHexDigit) (l := rest)).length_le
    rw [List.cons_append, biteUnsigned_hexadecimal before hmark,
      biteUnsigned_hexadecimal before hmark, hdigits, List.drop_append_of_le_length hle,
      boundedNumber_append h]
  · rw [biteUnsigned_decimal before hhex, biteUnsigned_decimal before (mt (.of_append h) hhex),
      decimalLength_append h, List.drop_append_of_le_length (decimalLength_le _ _),
      boundedNumber_append h]

lemma biteNumber_append (h : Ends cs') (c : Char) (cs : List Char) :
    biteNumber c (cs ++ cs') = biteNumber c cs := by
  rw [biteNumber, biteNumber, biteUnsigned_append h]
  cases cs with
  | cons d cs => rw [List.cons_append, biteUnsigned_append h, List.head?_cons, List.head?_cons]
  | nil =>
      cases cs' with
      | nil => rfl
      | cons d cs' =>
          obtain ⟨-, hdigit, -, hpoint⟩ := h.head
          simp [hdigit, hpoint]

/-- **A token goes no further than to the character that ends it.** -/
lemma bite_append (h : Ends cs') {c : Char} (hslash : c ≠ '/') (cs : List Char) :
    bite c (cs ++ cs') = bite c cs := by
  rw [bite, bite, h.takeWhile_of_append fun _ => id, biteNumber_append h, if_neg hslash,
    if_neg hslash]

lemma biteUnsigned_extra_le (before : Nat) (c : Char) (cs : List Char) :
    (biteUnsigned before (c :: cs)).extra ≤ before + cs.length := by
  by_cases hhex : HexAhead c cs
  · obtain ⟨rfl, x, hx, hmark⟩ := hhex
    obtain ⟨rest, rfl⟩ := List.head?_eq_some_iff.mp hx
    have hle := (List.takeWhile_prefix (p := isHexDigit) (l := rest)).length_le
    rw [biteUnsigned_hexadecimal before hmark]
    split_ifs
    · simp
    · simp only [boundedNumber_extra, List.length_cons]
      omega
  · have hle := decimalLength_le (c = '.') cs
    rw [biteUnsigned_decimal before hhex, boundedNumber_extra]
    omega

/-- No more is bitten off than there is. -/
lemma bite_extra_le (c : Char) (cs : List Char) : (bite c cs).extra ≤ cs.length := by
  rw [bite]
  split_ifs
  · exact (List.takeWhile_prefix _).length_le
  · rw [biteNumber]
    split_ifs with hsign hdigit
    · cases cs with
      | nil => cases hdigit
      | cons d cs =>
          have hle := biteUnsigned_extra_le 1 d cs
          simpa [Nat.add_comm] using hle
    · simp
    · simpa using biteUnsigned_extra_le 0 c cs
  · simp
  · simp
  · simp

end Bites

/-! ## Steps -/

section Steps

variable {file : String} {ending : Ending} {cursor : Cursor} {position : Position}

/-- **A token stands behind trivia**, and is what can be bitten off there. -/
lemma exists_bite_of_next {kind : TokenKind} {text : List Char} {rest : Cursor}
    (h : next file ending cursor = .token kind text position rest) :
    ∃ front c cs, Trivia front ∧ cursor.rest = front ++ c :: cs ∧
      position = cursor.position.advanceBy front ∧ Text.isBlank c = false ∧
      (bite c cs).outcome = .ok kind ∧ text = c :: cs.take (bite c cs).extra ∧
      rest = ⟨position.advanceBy text, cs.drop (bite c cs).extra⟩ := by
  obtain ⟨ahead, c, cs, hahead, hrest, hkind, rfl, rfl, rfl⟩ := exists_of_next_token h
  obtain ⟨front, hfront, hposition, -, htrivia, hhead⟩ := exists_trivia_of_skipTrivia hahead
  rw [hrest] at hfront htrivia hhead
  refine ⟨front, c, cs, htrivia (by simp), hfront, hposition, hhead c rfl, hkind, rfl, ?_⟩
  rw [Cursor.skip, hrest, List.take_succ_cons, List.drop_succ_cons]

/-- **Behind the last token there is only trivia.** -/
lemma finalTrivia_of_next (h : next file ending cursor = .finished position) :
    FinalTrivia cursor.rest ∧ position = cursor.position.advanceBy cursor.rest := by
  rw [next] at h
  split at h
  · split at h <;> cases h
  · rename_i ahead hahead
    obtain ⟨front, hfront, hposition, hfinal, -, -⟩ := exists_trivia_of_skipTrivia hahead
    split at h
    · rename_i hrest
      rw [hrest, List.append_nil] at hfront
      rw [atEnd.eq_def] at h
      split at h
      · cases h
        exact ⟨hfront ▸ hfinal, hfront ▸ hposition⟩
      · cases h
    · rw [scanBite.eq_def] at h
      dsimp only at h
      split at h
      · cases h
      · split at h <;> cases h

/-- What is put behind a text does not reach its tokens. -/
lemma Scans.of_next {kind : TokenKind} {text cs' : List Char} {rest : Cursor}
    {symbols : List Symbol} (hnext : next file ending cursor = .token kind text position rest)
    (hends : Ends cs') (h : Scans (rest.rest ++ cs') symbols) :
    Scans (cursor.rest ++ cs') (⟨kind, String.ofList text⟩ :: symbols) := by
  obtain ⟨front, c, cs, hfront, hcursor, -, hblank, hkind, rfl, rfl⟩ := exists_bite_of_next hnext
  have hslash : c ≠ '/' := by
    rintro rfl
    have hname : startsName '/' = false := by decide
    have hnumber : startsNumber '/' = false := by decide
    simp [bite, hname, hnumber] at hkind
  have hlength : (cs.take (bite c cs).extra).length = (bite c cs).extra :=
    List.length_take_of_le (bite_extra_le c cs)
  have hsplit : cs.take (bite c cs).extra ++ (cs.drop (bite c cs).extra ++ cs') = cs ++ cs' := by
    rw [← List.append_assoc, List.take_append_drop]
  have hbite : bite c (cs.take (bite c cs).extra ++ (cs.drop (bite c cs).extra ++ cs'))
      = ⟨(cs.take (bite c cs).extra).length, .ok kind, (bite c cs).looksAhead⟩ := by
    rw [hsplit, bite_append hends hslash, hlength, ← hkind]
  have hscan := Scans.of_bite hblank hslash hbite h
  rw [hsplit] at hscan
  rw [hcursor, List.append_assoc]
  exact hscan.trivia hfront

/-- **A whole text**: what can be put behind what may stand behind its last token can be put behind
the text. -/
lemma Scans.of_lexemes {cs' : List Char} {symbols : List Symbol} (hends : Ends cs')
    (hfinal : ∀ final, FinalTrivia final → Scans (final ++ cs') symbols) {tokens : List Token}
    {last : Token} (h : lexemesFrom file .complete 1 cursor [] = (tokens ++ [last]).map .ok) :
    Scans (cursor.rest ++ cs') (tokens.map Token.symbol ++ symbols) := by
  induction tokens generalizing cursor with
  | nil =>
      cases hnext : next file .complete cursor with
      | finished position => exact hfinal _ (finalTrivia_of_next hnext).1
      | token kind text position rest =>
          rw [lexemesFrom_of_token hnext] at h
          obtain ⟨tokens, -, ⟨last', -, hrest⟩ | ⟨e, hrest⟩⟩ :=
            lexemesFrom_one_cases file .complete rest
          · simp [hrest] at h
          · simp [hrest] at h
      | failed error rest => simp [lexemesFrom_succ, hnext, lexemesFrom] at h
  | cons t tokens ih =>
      cases hnext : next file .complete cursor with
      | finished position => simp [lexemesFrom_succ, hnext] at h
      | token kind text position rest =>
          rw [lexemesFrom_of_token hnext, List.cons_append, List.map_cons, List.cons.injEq,
            Except.ok.injEq] at h
          obtain ⟨rfl, hrest⟩ := h
          exact .of_next hnext hends (ih hrest)
      | failed error rest => simp [lexemesFrom_succ, hnext, lexemesFrom] at h

end Steps

end RegisterScript
