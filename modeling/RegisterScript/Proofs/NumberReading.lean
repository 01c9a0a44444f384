import RegisterScript.Proofs.IntegerOperands
import RegisterScript.Proofs.NumberTokens

/-!
# Numbers, scanned and read

A number is recognised twice, by rules of its own each time.  The scanner cuts it out of a script,
and its value is found later, from the text alone.  What the scanner lets through should be a number
to the reader as well, even if it is too large: then the only refusal left is one of range.

**Readers.**  Each reader takes the digits that the scanner takes, below U+0080: those of whole
numbers by `Numeral.readUnsigned_ne_malformed` and `Numeral.readNegative_ne_malformed`, those around
a point by `Numeral.readDecimal_pointed`.  What their value is does not matter for this, only that
nothing is left over.

**Forms.**  The reader chooses by the first characters, the scanner goes from left to right, so the
two are compared form by form (`NumberForm.Spells.understood`).  In one form they differ: the
scanner allows a sign before a hexadecimal number, the reader takes what has a sign for a decimal
one (`NumberForm.Spells.malformed`).

**In a script.**  Hence a number that is scanned is refused for its form exactly if it is a
hexadecimal one with a sign: `Source.readCell_number`.
-/

namespace RegisterScript

/-! ## Readers -/

namespace Numeral

lemma readUnsigned_ne_malformed {base : Nat} {cs : List Char} (hbase : 0 < base) (hne : cs ≠ [])
    (h : ∀ c ∈ cs, (digitValue? base c).isSome) : readUnsigned base cs ≠ .error .malformed := by
  obtain ⟨digits, hdigits⟩ := exists_shows h
  rw [readUnsigned_of_digits hbase hne hdigits]
  split_ifs <;> simp

lemma readNegative_ne_malformed {cs : List Char} (hne : cs ≠ [])
    (h : ∀ c ∈ cs, (digitValue? 10 c).isSome) : readNegative cs ≠ .error .malformed := by
  obtain ⟨digits, hdigits⟩ := exists_shows h
  rw [readNegative_of_digits hne hdigits]
  split_ifs <;> simp

lemma roundScaled_ne_malformed (negative : Bool) (value : Nat) (binary decimal : Int) :
    roundScaled negative value binary decimal ≠ .error .malformed := by
  rw [roundScaled]
  split_ifs <;> simp

@[simp] lemma digitValue?_underscore (base : Nat) : digitValue? base '_' = none := rfl

@[simp] lemma digitValue?_point (base : Nat) : digitValue? base '.' = none := rfl

/-- A mantissa takes digits one by one. -/
lemma Mantissa.scan_digits {base : Nat} {cs : List Char} {digits : List Nat}
    (h : Shows base cs digits) (m : Mantissa) (rest : List Char) :
    Mantissa.scan base m (cs ++ rest)
      = Mantissa.scan base (digits.foldl (Mantissa.push base) m) rest := by
  induction h generalizing m with
  | nil => rfl
  | @cons c d cs digits hd _ ih =>
      have hunderscore : c ≠ '_' := by
        rintro rfl
        simp at hd
      have hpoint : c ≠ '.' := by
        rintro rfl
        simp at hd
      rw [List.cons_append, Mantissa.scan, if_neg hunderscore, if_neg (by simp [hpoint]), hd]
      exact ih (m.push base d)

lemma Mantissa.foldl_push_pointed (base : Nat) (digits : List Nat) (m : Mantissa) :
    (digits.foldl (Mantissa.push base) m).pointed = m.pointed := by
  induction digits generalizing m with
  | nil => rfl
  | cons d digits ih => exact ih (m.push base d)

lemma Mantissa.foldl_push_nonempty {base : Nat} {digits : List Nat} {m : Mantissa}
    (h : digits ≠ [] ∨ m.nonempty = true) :
    (digits.foldl (Mantissa.push base) m).nonempty = true := by
  induction digits generalizing m with
  | nil => simpa using h
  | cons d digits ih => exact ih (.inr rfl)

/-- Without underscores there is nothing to separate. -/
lemma wellSeparated_of_not_mem {base : Nat} {cs : List Char} (h : '_' ∉ cs) {before : Before}
    (hbefore : before ≠ .underscore) : wellSeparated base before cs = true := by
  induction cs generalizing before with
  | nil => simpa [wellSeparated] using hbefore
  | cons c cs ih =>
      rw [List.mem_cons, not_or] at h
      rw [wellSeparated, if_neg (Ne.symm h.1), ih h.2 (by decide), ih h.2 (by decide)]
      simp [hbefore]

section Pointed

variable {base : Nat} {whole fraction : List Char}

/-- Digits around a point are gone through to the end. -/
lemma Mantissa.scan_pointed (hwhole : ∀ c ∈ whole, (digitValue? base c).isSome)
    (hfraction : ∀ c ∈ fraction, (digitValue? base c).isSome)
    (hne : whole ≠ [] ∨ fraction ≠ []) :
    ∃ m, Mantissa.scan base {} (whole ++ '.' :: fraction) = (m, []) ∧ m.nonempty = true := by
  obtain ⟨digits, hdigits⟩ := exists_shows hwhole
  obtain ⟨digits', hdigits'⟩ := exists_shows hfraction
  let front : Mantissa := digits.foldl (Mantissa.push base) {}
  let behind : Mantissa := digits'.foldl (Mantissa.push base) { front with pointed := true }
  have hpoint : Mantissa.scan base front ('.' :: fraction)
      = Mantissa.scan base { front with pointed := true } fraction := by
    have hpointed : front.pointed = false := Mantissa.foldl_push_pointed base digits {}
    rw [Mantissa.scan, if_neg (by decide), if_pos ⟨rfl, hpointed⟩]
  have hscan : Mantissa.scan base { front with pointed := true } fraction = (behind, []) := by
    have hbehind := Mantissa.scan_digits hdigits' { front with pointed := true } []
    rwa [List.append_nil] at hbehind
  refine ⟨behind, by rw [Mantissa.scan_digits hdigits, hpoint, hscan], ?_⟩
  refine Mantissa.foldl_push_nonempty (hne.symm.imp ?_ fun h => ?_)
  · rintro h rfl
    exact h (List.forall₂_nil_right_iff.mp hdigits')
  · refine Mantissa.foldl_push_nonempty (.inl ?_)
    rintro rfl
    exact h (List.forall₂_nil_right_iff.mp hdigits)

/-- **Digits around a point are a number.** -/
lemma readDecimal_pointed (hwhole : ∀ c ∈ whole, (digitValue? 10 c).isSome)
    (hfraction : ∀ c ∈ fraction, (digitValue? 10 c).isSome)
    (hne : whole ≠ [] ∨ fraction ≠ []) (negative : Bool) :
    readDecimal negative (whole ++ '.' :: fraction) ≠ .error .malformed := by
  obtain ⟨m, hscan, hnonempty⟩ := Mantissa.scan_pointed hwhole hfraction hne
  have hunderscore : '_' ∉ whole ++ '.' :: fraction := by
    intro hmem
    simp only [List.mem_append, List.mem_cons] at hmem
    rcases hmem with hmem | hmem | hmem
    · simpa using hwhole _ hmem
    · cases hmem
    · simpa using hfraction _ hmem
  have hseparated : wellSeparated 10 .nothing (whole ++ '.' :: fraction) = true :=
    wellSeparated_of_not_mem hunderscore (by decide)
  rw [readDecimal, hscan]
  simp only [hnonempty, hseparated, Bool.and_true, if_true]
  exact roundScaled_ne_malformed negative m.value 0 (m.decimalExponent 0)

end Pointed

end Numeral

/-! ## Components -/

section Components

open Numeral

/-- The result is a value, or the text has the form of a number that is out of range. -/
def Understood (result : Except OperandError Cell) : Prop :=
  (∃ cell, result = .ok cell) ∨ Refused result .outOfRange

lemma Understood.not_malformed {result : Except OperandError Cell} (h : Understood result) :
    ¬ Refused result .malformed := by
  rintro ⟨e, he, hflaw⟩
  rcases h with ⟨cell, hcell⟩ | ⟨e', he', hflaw'⟩
  · rw [he] at hcell
    cases hcell
  · rw [he] at he'
    cases he'
    rw [hflaw] at hflaw'
    cases hflaw'

lemma understood_componentResult {result : Except Flaw Cell} (h : result ≠ .error .malformed)
    (form : ComponentForm) (kind : Kind) (component part : List Char) :
    Understood (componentResult form kind component part result) := by
  rcases result with (_ | _) | cell
  · exact absurd rfl h
  · exact .inr (refused_componentResult ..)
  · exact .inl ⟨cell, rfl⟩

lemma map_ofNat_ne_malformed {result : Except Flaw Nat} (h : result ≠ .error .malformed) :
    result.map UInt32.ofNat ≠ .error .malformed := by
  rcases result with flaw | n
  · simpa [Except.map] using h
  · simp [Except.map]

lemma isSome_digitValue?_of_isDecimalDigit {c : Char} (h : Text.isDecimalDigit c = true)
    (hascii : c.toNat < 0x80) : (digitValue? 10 c).isSome := by
  rw [Text.isDecimalDigit, if_pos hascii, isDigit_iff] at h
  have hlt : c.toNat - 0x30 < 10 := by omega
  simp [digitValue?, h, hlt]

lemma isSome_digitValue?_of_isHexDigit {c : Char} (h : isHexDigit c = true) :
    (digitValue? 16 c).isSome := by
  rw [isHexDigit_iff] at h
  rw [digitValue?]
  split_ifs with hdecimal hsmall hlarge
  · have hlt : c.toNat - 0x30 < 16 := by omega
    simp [hlt]
  · have hlt : c.toNat - 0x61 + 10 < 16 := by omega
    simp [hlt]
  · have hlt : c.toNat - 0x41 + 10 < 16 := by omega
    simp [hlt]
  · exact absurd h (by tauto)

end Components

/-! ## Forms -/

section Forms

open Numeral

lemma signed_append (negative : Bool) (cs suffix : List Char) :
    signed negative (cs ++ suffix) = signed negative cs ++ suffix := by
  cases negative <;> rfl

lemma mem_signed {negative : Bool} {c : Char} {cs : List Char} (h : c ∈ signed negative cs) :
    c = '-' ∨ c ∈ cs := by
  cases negative with
  | true => exact List.mem_cons.mp h
  | false => exact .inr h

lemma subset_signed {negative : Bool} {cs : List Char} : cs ⊆ signed negative cs := by
  cases negative with
  | true => exact List.subset_cons_self '-' cs
  | false => exact List.Subset.refl cs

lemma dropFloatSuffix_append {cs suffix : List Char} (hcs : ∀ c ∈ cs, c ≠ 'f' ∧ c ≠ 'F')
    (hsuffix : ∀ c ∈ suffix, c = 'f' ∨ c = 'F') : dropFloatSuffix (cs ++ suffix) = cs := by
  have hdropped : ∀ c ∈ suffix.reverse, (decide (c = 'f') || decide (c = 'F')) = true := by
    simpa using hsuffix
  have hkept : ∀ c ∈ cs.reverse, (decide (c = 'f') || decide (c = 'F')) = false := by
    simpa using hcs
  rw [dropFloatSuffix, List.reverse_append, List.dropWhile_append_of_pos hdropped,
    dropWhile_eq_self hkept, List.reverse_reverse]

lemma readFloating_signed {cs : List Char}
    (h : ∀ c ∈ cs, c ≠ '+' ∧ c ≠ '-' ∧ c ≠ 'x' ∧ c ≠ 'X') (negative : Bool) :
    readFloating (signed negative cs) = readDecimal negative cs := by
  rw [readFloating.eq_def]
  -- the reader looks for a sign first, then for a mark
  split
  rename_i sign rest heq
  obtain ⟨rfl, rfl⟩ : negative = sign ∧ cs = rest := by
    cases negative with
    | true =>
        cases heq
        exact ⟨rfl, rfl⟩
    | false =>
        rw [signed] at heq
        split at heq
        · exact absurd rfl (h '+' (by simp)).1
        · exact absurd rfl (h '-' (by simp)).2.1
        · cases heq
          exact ⟨rfl, rfl⟩
  split
  · rename_i x digits
    have hx := h x (by simp)
    rw [if_neg (by tauto)]
  · rfl

/-- A number with a point is read as one, without its suffix. -/
lemma readCell_pointed {cs suffix : List Char}
    (hcs : ∀ c ∈ cs, Text.isDecimalDigit c = true ∨ c = '.') (hpoint : '.' ∈ cs)
    (hsuffix : ∀ c ∈ suffix, c = 'f' ∨ c = 'F') (negative : Bool) :
    readCell (signed negative (cs ++ suffix)) =
      componentResult .float .floating (signed negative (cs ++ suffix)) (signed negative cs)
        (readDecimal negative cs) := by
  -- digits and a point are never taken for a sign, a mark or a suffix
  have hne : ∀ d, Text.isDecimalDigit d = false → d ≠ '.' → ∀ c ∈ cs, c ≠ d := by
    rintro d hdigit hd c hc rfl
    rcases hcs c hc with h | h
    · exact ne_of_isDecimalDigit h hdigit rfl
    · exact hd h
  have hmem : ∀ c ∈ signed negative (cs ++ suffix),
      c = '-' ∨ (Text.isDecimalDigit c = true ∨ c = '.') ∨ c = 'f' ∨ c = 'F' := by
    intro c hc
    refine (mem_signed hc).imp_right fun hc => ?_
    exact (List.mem_append.mp hc).imp (hcs c) (hsuffix c)
  have hsolid : ∀ c ∈ signed negative (cs ++ suffix), Text.isBlank c = false := by
    intro c hc
    rcases hmem c hc with rfl | (hdigit | rfl) | rfl | rfl
    · decide
    · exact isBlank_eq_false_of_isDecimalDigit hdigit
    · decide
    · decide
    · decide
  have hmark : ∀ x rest, signed negative (cs ++ suffix) = '0' :: x :: rest → x ≠ 'x' ∧ x ≠ 'X' := by
    intro x rest heq
    have hx := hmem x (by simp [heq])
    constructor
    · rintro rfl
      exact absurd hx (by decide)
    · rintro rfl
      exact absurd hx (by decide)
  have hpart : dropFloatSuffix (signed negative (cs ++ suffix)) = signed negative cs := by
    rw [signed_append]
    refine dropFloatSuffix_append (fun c hc => ?_) hsuffix
    rcases mem_signed hc with rfl | hc
    · decide
    · exact ⟨hne 'f' (by decide) (by decide) c hc, hne 'F' (by decide) (by decide) c hc⟩
  have hfloating : readFloating (signed negative cs) = readDecimal negative cs :=
    readFloating_signed (fun c hc => ⟨hne '+' (by decide) (by decide) c hc,
      hne '-' (by decide) (by decide) c hc, hne 'x' (by decide) (by decide) c hc,
      hne 'X' (by decide) (by decide) c hc⟩) negative
  have hpoint : '.' ∈ signed negative (cs ++ suffix) := by
    cases negative <;> simp [signed, hpoint]
  rw [readCell_unmarked hsolid hmark, readUnmarked.eq_def, if_pos hpoint, hpart, hfloating]

variable {text : List Char}

lemma understood_pointed {whole fraction suffix : List Char}
    (hwhole : ∀ d ∈ whole, Text.isDecimalDigit d = true)
    (hfraction : ∀ d ∈ fraction, Text.isDecimalDigit d = true)
    (hsuffix : ∀ c ∈ suffix, c = 'f' ∨ c = 'F') {negative : Bool}
    (hascii : ∀ c ∈ signed negative (whole ++ '.' :: fraction ++ suffix), c.toNat < 0x80)
    (hdigit : ∃ c ∈ signed negative (whole ++ '.' :: fraction ++ suffix),
      Text.isDecimalDigit c = true) :
    Understood (readCell (signed negative (whole ++ '.' :: fraction ++ suffix))) := by
  have hcs : ∀ c ∈ whole ++ '.' :: fraction, Text.isDecimalDigit c = true ∨ c = '.' := by
    simp only [List.mem_append, List.mem_cons]
    rintro c (hc | rfl | hc)
    · exact .inl (hwhole c hc)
    · exact .inr rfl
    · exact .inl (hfraction c hc)
  have hascii : ∀ c ∈ whole ++ '.' :: fraction ++ suffix, c.toNat < 0x80 :=
    fun c hc => hascii c (subset_signed hc)
  -- a point alone is scanned as a number, too, but then there is no digit
  have hne : whole ≠ [] ∨ fraction ≠ [] := by
    by_contra hempty
    obtain ⟨rfl, rfl⟩ : whole = [] ∧ fraction = [] := by simpa using hempty
    obtain ⟨c, hc, hdigit⟩ := hdigit
    rcases mem_signed hc with rfl | hc
    · exact absurd hdigit (by decide)
    · rcases List.mem_cons.mp hc with rfl | hc
      · exact absurd hdigit (by decide)
      · rcases hsuffix c hc with rfl | rfl
        · exact absurd hdigit (by decide)
        · exact absurd hdigit (by decide)
  rw [readCell_pointed hcs (by simp) hsuffix]
  refine understood_componentResult (readDecimal_pointed ?_ ?_ hne negative) ..
  · exact fun c hc => isSome_digitValue?_of_isDecimalDigit (hwhole c hc) (hascii c (by simp [hc]))
  · exact fun c hc =>
      isSome_digitValue?_of_isDecimalDigit (hfraction c hc) (hascii c (by simp [hc]))

/-- **A number that is scanned is a number to the reader**, unless it is a hexadecimal one with a
sign. -/
lemma NumberForm.Spells.understood {form : NumberForm} {negative : Bool}
    (h : form.Spells negative text) (hform : ¬ (form = .hexadecimal ∧ negative = true))
    (hascii : ∀ c ∈ text, c.toNat < 0x80) (hdigit : ∃ c ∈ text, Text.isDecimalDigit c = true) :
    Understood (readCell text) := by
  obtain ⟨magnitude, hmagnitude, rfl⟩ := h
  cases hmagnitude with
  | @hexadecimal x digits hx hne hdigits =>
      obtain rfl : negative = false := by simpa using hform
      have hvalues := fun d hd => isSome_digitValue?_of_isHexDigit (hdigits d hd)
      rw [signed, readCell_hexadecimal hx hne hvalues]
      have hread := readUnsigned_ne_malformed (by decide) hne hvalues
      exact understood_componentResult (map_ofNat_ne_malformed hread) ..
  | whole hne hdigits =>
      have hvalues := fun d hd =>
        isSome_digitValue?_of_isDecimalDigit (hdigits d hd) (hascii d (subset_signed hd))
      cases negative with
      | true =>
          have hsolid := fun d hd => isBlank_eq_false_of_isDecimalDigit (hdigits d hd)
          have hpoint : '.' ∉ magnitude := fun hmem => absurd (hdigits '.' hmem) (by decide)
          rw [signed, readCell_minus hsolid hpoint]
          exact understood_componentResult (readNegative_ne_malformed hne hvalues) ..
      | false =>
          rw [signed, readCell_whole hvalues]
          have hread := readUnsigned_ne_malformed (by decide) hne hvalues
          exact understood_componentResult (map_ofNat_ne_malformed hread) ..
  | @pointed whole fraction hwhole hfraction =>
      rw [← List.append_nil (whole ++ '.' :: fraction)] at hascii hdigit ⊢
      exact understood_pointed hwhole hfraction (by simp) hascii hdigit
  | @suffixed whole fraction f hwhole hfraction hf =>
      have hsplit : whole ++ '.' :: (fraction ++ [f]) = whole ++ '.' :: fraction ++ [f] := by simp
      rw [hsplit] at hascii hdigit ⊢
      exact understood_pointed hwhole hfraction (by simpa using hf) hascii hdigit

/-- A hexadecimal number with a sign is taken for a decimal one, up to its mark. -/
lemma NumberForm.Spells.malformed (h : NumberForm.hexadecimal.Spells true text) :
    Refused (readCell text) .malformed := by
  obtain ⟨magnitude, hmagnitude, rfl⟩ := h
  cases hmagnitude with
  | @hexadecimal x digits hx hne hdigits =>
      have hsolid := isBlank_of_mem_hexadecimal hx
        fun d hd => isSome_digitValue?_of_isHexDigit (hdigits d hd)
      have hpoint : '.' ∉ '0' :: x :: digits := by
        simp only [List.mem_cons, not_or]
        refine ⟨by decide, ?_, fun hmem => absurd (hdigits '.' hmem) (by decide)⟩
        rcases hx with rfl | rfl <;> decide
      have hread : readNegative ('0' :: x :: digits) = .error .malformed := by
        rcases hx with rfl | rfl <;> rfl
      rw [signed, readCell_minus hsolid hpoint, hread]
      exact refused_componentResult ..

end Forms

/-! ## In a script -/

/-- **What the scanner takes for a number, the reader takes for one as well**, as far as it is
written below U+0080 and has a digit: it gets a value or is out of range.  A hexadecimal number with
a sign is the one exception; it is refused for its form. -/
theorem Source.readCell_number (s : Source) (problems : Nat) (t : Token)
    (hmem : .ok t ∈ s.lexemes problems) (hkind : t.kind = .number)
    (hascii : ∀ c ∈ t.text.toList, c.toNat < 0x80)
    (hdigit : ∃ c ∈ t.text.toList, Text.isDecimalDigit c = true) :
    (Understood (readCell t.text.toList) ↔
        ¬ NumberForm.hexadecimal.Spells true t.text.toList) ∧
      (Refused (readCell t.text.toList) .malformed ↔
        NumberForm.hexadecimal.Spells true t.text.toList) := by
  obtain ⟨start, rest, chars, hstart, hnext, rfl, hfile⟩ :=
    exists_next_of_mem_lexemesFrom (.start s.text) (by simp [hkind]) hmem
  rw [hkind] at hnext
  obtain ⟨form, negative, hspells, -⟩ := exists_spells_of_next hnext
  by_cases hform : form = .hexadecimal ∧ negative = true
  · obtain ⟨rfl, rfl⟩ := hform
    have hmalformed := hspells.malformed
    exact ⟨iff_of_false (fun h => h.not_malformed hmalformed) (not_not_intro hspells),
      iff_of_true hmalformed hspells⟩
  · have hunderstood := hspells.understood hform hascii hdigit
    have hnot : ¬ NumberForm.hexadecimal.Spells true t.text.toList :=
      fun h => hunderstood.not_malformed h.malformed
    exact ⟨iff_of_true hunderstood hnot, iff_of_false hunderstood.not_malformed hnot⟩

/-- A block that writes a hexadecimal number with a sign, and one with a point. -/
def Source.signedMark : Source where
  name := "test.gs"
  text := "a \x7b UV -0x1,.5f; \x7d".toList

/-- The tokens of that text. -/
def Source.signedMarkTokens : List Token :=
  [⟨.identifier, "a", ⟨"test.gs", ⟨1, 1⟩⟩⟩, ⟨.punctuation, "\x7b", ⟨"test.gs", ⟨1, 3⟩⟩⟩,
    ⟨.identifier, "UV", ⟨"test.gs", ⟨1, 5⟩⟩⟩, ⟨.number, "-0x1", ⟨"test.gs", ⟨1, 8⟩⟩⟩,
    ⟨.punctuation, ",", ⟨"test.gs", ⟨1, 12⟩⟩⟩, ⟨.number, ".5f", ⟨"test.gs", ⟨1, 13⟩⟩⟩,
    ⟨.punctuation, ";", ⟨"test.gs", ⟨1, 16⟩⟩⟩, ⟨.punctuation, "\x7d", ⟨"test.gs", ⟨1, 18⟩⟩⟩,
    ⟨.endOfInput, "", ⟨"test.gs", ⟨1, 19⟩⟩⟩]

lemma Source.lexemes_signedMark : signedMark.lexemes 1 = signedMarkTokens.map .ok := by
  rw [lexemes, lexemesFrom_eq_lexemesWithin _ _ (Nat.lt_succ_self _)]
  decide +kernel

theorem Source.readCell_number_signedMark :
    .ok ⟨.number, ".5f", ⟨"test.gs", ⟨1, 13⟩⟩⟩ ∈ signedMark.lexemes 1 ∧
      (Understood (readCell ".5f".toList) ↔ ¬ NumberForm.hexadecimal.Spells true ".5f".toList) ∧
      (Refused (readCell ".5f".toList) .malformed ↔
        NumberForm.hexadecimal.Spells true ".5f".toList) := by
  have hmem : .ok ⟨.number, ".5f", ⟨"test.gs", ⟨1, 13⟩⟩⟩ ∈ signedMark.lexemes 1 := by
    rw [lexemes_signedMark]
    simp [signedMarkTokens]
  exact ⟨hmem, readCell_number signedMark 1 _ hmem rfl (by simp) ⟨'5', by simp, by decide⟩⟩

/-- **The scanner and the reader disagree**: what is scanned as a number is refused for its form. -/
theorem Source.readCell_signedMark_malformed :
    ∃ t, .ok t ∈ signedMark.lexemes 1 ∧ t.kind = .number ∧
      (∀ c ∈ t.text.toList, c.toNat < 0x80) ∧
      (∃ c ∈ t.text.toList, Text.isDecimalDigit c = true) ∧
      Refused (readCell t.text.toList) .malformed := by
  refine ⟨⟨.number, "-0x1", ⟨"test.gs", ⟨1, 8⟩⟩⟩, ?_, rfl, by simp, ⟨'0', by simp, by decide⟩, ?_⟩
  · rw [lexemes_signedMark]
    simp [signedMarkTokens]
  · exact ⟨_, rfl, rfl⟩

end RegisterScript
