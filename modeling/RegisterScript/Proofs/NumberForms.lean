import Mathlib.Data.List.TakeWhile
import RegisterScript.Proofs.CharacterClasses

/-!
# The forms of a number

The scanner finds out where a number ends while it goes over its characters, and then looks at one
more.  This file says what it has found: a number of one of four forms, and a character behind it
that this form does not go on with.

**Forms.**  `NumberForm.Magnitude` is the grammar of numbers without their sign, said without the
scanner, and `NumberForm.Spells` adds the sign.  `NumberForm.StopsBefore` says which characters may
stand behind a number of a form.

**Scanned.**  What is bitten off as a number has one of the forms and stops before what is behind it
(`exists_spells_of_bite`), and whatever has one of the forms and stops before what is behind it is
bitten off as a number (`bite_number`).
-/

namespace RegisterScript

/-! ## Forms -/

/-- The forms of a number. -/
inductive NumberForm where
  /-- Digits in base sixteen, behind their mark. -/
  | hexadecimal
  /-- Decimal digits. -/
  | whole
  /-- Decimal digits and a point. -/
  | pointed
  /-- Decimal digits, a point, and a final letter. -/
  | suffixed
  deriving DecidableEq, Repr

/-- A text with a minus sign in front, if it is negative. -/
def signed : (negative : Bool) → List Char → List Char
  | true, text => '-' :: text
  | false, text => text

namespace NumberForm

/-- A number of a form, without a sign. -/
inductive Magnitude : NumberForm → List Char → Prop
  | hexadecimal {x : Char} {digits : List Char} (hx : x = 'x' ∨ x = 'X') (hne : digits ≠ [])
      (hdigits : ∀ d ∈ digits, isHexDigit d = true) :
      Magnitude .hexadecimal ('0' :: x :: digits)
  | whole {digits : List Char} (hne : digits ≠ [])
      (hdigits : ∀ d ∈ digits, Text.isDecimalDigit d = true) : Magnitude .whole digits
  | pointed {whole fraction : List Char} (hwhole : ∀ d ∈ whole, Text.isDecimalDigit d = true)
      (hfraction : ∀ d ∈ fraction, Text.isDecimalDigit d = true) :
      Magnitude .pointed (whole ++ '.' :: fraction)
  | suffixed {whole fraction : List Char} {f : Char}
      (hwhole : ∀ d ∈ whole, Text.isDecimalDigit d = true)
      (hfraction : ∀ d ∈ fraction, Text.isDecimalDigit d = true) (hf : f = 'f' ∨ f = 'F') :
      Magnitude .suffixed (whole ++ '.' :: (fraction ++ [f]))

/-- A number of a form, with its sign. -/
def Spells (form : NumberForm) (negative : Bool) (text : List Char) : Prop :=
  ∃ magnitude, form.Magnitude magnitude ∧ text = signed negative magnitude

/-- Whether `c` would be one more digit of a number of this form. -/
def goesOn : NumberForm → Char → Bool
  | .hexadecimal, c => isHexDigit c
  | .whole, c => Text.isDecimalDigit c
  | .pointed, c => Text.isDecimalDigit c
  | .suffixed, _ => false

/-- A number of this form may have `c` behind it. -/
def StopsBefore (form : NumberForm) (c : Char) : Prop := form.goesOn c = false ∧ runsOn c = false

/-- A number starts with a digit or with its point. -/
lemma Magnitude.exists_first {form : NumberForm} {text : List Char} (h : form.Magnitude text) :
    ∃ c cs, text = c :: cs ∧ (Text.isDecimalDigit c = true ∨ c = '.') := by
  cases h with
  | hexadecimal => exact ⟨_, _, rfl, .inl (by decide)⟩
  | whole hne hdigits =>
      obtain ⟨c, cs, rfl⟩ := List.exists_cons_of_ne_nil hne
      exact ⟨c, cs, rfl, .inl (hdigits c (by simp))⟩
  | @pointed whole fraction hwhole _ =>
      cases whole with
      | nil => exact ⟨_, _, rfl, .inr rfl⟩
      | cons c whole => exact ⟨c, _, rfl, .inl (hwhole c (by simp))⟩
  | @suffixed whole fraction f hwhole _ _ =>
      cases whole with
      | nil => exact ⟨_, _, rfl, .inr rfl⟩
      | cons c whole => exact ⟨c, _, rfl, .inl (hwhole c (by simp))⟩

/-- No number has a comma in it. -/
lemma Magnitude.comma_not_mem {form : NumberForm} {text : List Char} (h : form.Magnitude text) :
    ',' ∉ text := by
  have hdecimal : ∀ digits : List Char, (∀ d ∈ digits, Text.isDecimalDigit d = true) →
      ',' ∉ digits := fun digits h hmem => absurd (h ',' hmem) (by decide)
  cases h with
  | @hexadecimal x digits hx _ hdigits =>
      simp only [List.mem_cons, not_or]
      refine ⟨by decide, ?_, fun hmem => absurd (hdigits ',' hmem) (by decide)⟩
      rcases hx with rfl | rfl <;> decide
  | whole _ hdigits => exact hdecimal _ hdigits
  | pointed hwhole hfraction => simp [hdecimal _ hwhole, hdecimal _ hfraction]
  | suffixed hwhole hfraction hf =>
      rcases hf with rfl | rfl <;> simp [hdecimal _ hwhole, hdecimal _ hfraction]

lemma Spells.comma_not_mem {form : NumberForm} {negative : Bool} {text : List Char}
    (h : form.Spells negative text) : ',' ∉ text := by
  obtain ⟨magnitude, hmagnitude, rfl⟩ := h
  cases negative with
  | true => simpa [signed] using hmagnitude.comma_not_mem
  | false => exact hmagnitude.comma_not_mem

lemma Spells.exists_cons {form : NumberForm} {negative : Bool} {text : List Char}
    (h : form.Spells negative text) : ∃ c more, text = c :: more := by
  obtain ⟨magnitude, hmagnitude, rfl⟩ := h
  cases negative with
  | true => exact ⟨_, _, rfl⟩
  | false =>
      obtain ⟨c, more, rfl, -⟩ := hmagnitude.exists_first
      exact ⟨c, more, rfl⟩

end NumberForm

/-! ## Decimal numbers -/

section Decimal

variable {rest : List Char}

lemma ne_of_isDecimalDigit {c d : Char} (hc : Text.isDecimalDigit c = true)
    (hd : Text.isDecimalDigit d = false) : c ≠ d := by
  rintro rfl
  rw [hc] at hd
  cases hd

lemma decimalLength_cons_digit {c : Char} (h : Text.isDecimalDigit c = true) (pointed : Bool)
    (cs : List Char) : decimalLength pointed (c :: cs) = decimalLength pointed cs + 1 := by
  have hpoint : c ≠ '.' := ne_of_isDecimalDigit h (by decide)
  have hsmall : c ≠ 'f' := ne_of_isDecimalDigit h (by decide)
  have hlarge : c ≠ 'F' := ne_of_isDecimalDigit h (by decide)
  simp [decimalLength, hpoint, hsmall, hlarge, h]

lemma decimalLength_append_digits {digits : List Char}
    (h : ∀ d ∈ digits, Text.isDecimalDigit d = true) (pointed : Bool) (rest : List Char) :
    decimalLength pointed (digits ++ rest) = digits.length + decimalLength pointed rest := by
  induction digits with
  | nil => simp
  | cons d digits ih =>
      rw [List.cons_append, decimalLength_cons_digit (h d (by simp)),
        ih fun e he => h e (by simp [he]), List.length_cons]
      omega

lemma decimalLength_point (cs : List Char) :
    decimalLength false ('.' :: cs) = decimalLength true cs + 1 := by
  simp [decimalLength]

lemma decimalLength_suffix {f : Char} (hf : f = 'f' ∨ f = 'F') (cs : List Char) :
    decimalLength true (f :: cs) = 1 := by
  simp [decimalLength, hf]

/-- Nothing but a digit, the first point and the letter behind a point goes on with a number. -/
lemma decimalLength_cons_other {c : Char} (hdigit : Text.isDecimalDigit c = false)
    {pointed : Bool} (hpoint : c = '.' → pointed = true)
    (hsuffix : c = 'f' ∨ c = 'F' → pointed = false) (cs : List Char) :
    decimalLength pointed (c :: cs) = 0 := by
  rw [decimalLength, if_neg, if_neg, if_neg]
  · simp [hdigit]
  · simp only [Bool.and_eq_true, Bool.or_eq_true, decide_eq_true_eq, not_and]
    intro hc
    simp [hsuffix hc]
  · simp only [Bool.and_eq_true, decide_eq_true_eq, not_and]
    intro hc
    simp [hpoint hc]

lemma decimalLength_of_stops
    (h : ∀ d ∈ rest.head?, Text.isDecimalDigit d = false ∧ runsOn d = false) (pointed : Bool) :
    decimalLength pointed rest = 0 := by
  cases rest with
  | nil => rfl
  | cons c rest =>
      obtain ⟨hdigit, hruns⟩ := h c rfl
      refine decimalLength_cons_other hdigit ?_ ?_ rest
      · rintro rfl
        exact absurd hruns (by decide)
      · rintro (rfl | rfl)
        · exact absurd hruns (by decide)
        · exact absurd hruns (by decide)

/-- The first character needs no look at what came before it. -/
lemma decimalLength_first {c : Char} (h : Text.isDecimalDigit c = true ∨ c = '.')
    (cs : List Char) : decimalLength false (c :: cs) = decimalLength (c = '.') cs + 1 := by
  rcases h with h | rfl
  · have hpoint : c ≠ '.' := ne_of_isDecimalDigit h (by decide)
    rw [decimalLength_cons_digit h, decide_eq_false hpoint]
  · exact decimalLength_point cs

/-- **A decimal number is gone through to its end.** -/
lemma NumberForm.Magnitude.decimalLength {form : NumberForm} {text : List Char}
    (h : form.Magnitude text) (hform : form ≠ .hexadecimal)
    (hstops : ∀ d ∈ rest.head?, form.StopsBefore d) :
    RegisterScript.decimalLength false (text ++ rest) = text.length := by
  cases h with
  | hexadecimal => exact absurd rfl hform
  | whole _ hdigits => rw [decimalLength_append_digits hdigits, decimalLength_of_stops hstops]; rfl
  | pointed hwhole hfraction =>
      rw [List.append_assoc, decimalLength_append_digits hwhole, List.cons_append,
        decimalLength_point, decimalLength_append_digits hfraction, decimalLength_of_stops hstops,
        List.length_append, List.length_cons, Nat.add_zero]
  | suffixed hwhole hfraction hf =>
      rw [List.append_assoc, decimalLength_append_digits hwhole, List.cons_append,
        decimalLength_point, List.append_assoc, decimalLength_append_digits hfraction,
        List.singleton_append, decimalLength_suffix hf, List.length_append, List.length_cons,
        List.length_append, List.length_singleton]

/-- The digits ahead, and what stops them. -/
lemma exists_digits (pointed : Bool) (cs : List Char) :
    ∃ digits rest, cs = digits ++ rest ∧ (∀ d ∈ digits, Text.isDecimalDigit d = true) ∧
      (∀ d ∈ rest.head?, Text.isDecimalDigit d = false) ∧
      decimalLength pointed cs = digits.length + decimalLength pointed rest := by
  have hsplit := List.takeWhile_append_dropWhile (p := Text.isDecimalDigit) (l := cs)
  have hdigits : ∀ d ∈ cs.takeWhile Text.isDecimalDigit, Text.isDecimalDigit d = true :=
    fun _ hd => List.mem_takeWhile_imp hd
  refine ⟨_, _, hsplit.symm, hdigits, ?_, ?_⟩
  · intro d hd
    have hhead := List.head?_dropWhile_not Text.isDecimalDigit cs
    rw [Option.mem_def] at hd
    rw [hd] at hhead
    simpa using hhead
  · rw [← decimalLength_append_digits hdigits, hsplit]

/-- Behind a point there are digits, and perhaps a letter. -/
lemma exists_fraction (cs : List Char) :
    ∃ form text rest, cs = text ++ rest ∧ decimalLength true cs = text.length ∧
      form ≠ NumberForm.hexadecimal ∧ (∀ d ∈ rest.head?, form.goesOn d = false) ∧
      ∀ whole, (∀ d ∈ whole, Text.isDecimalDigit d = true) →
        form.Magnitude (whole ++ '.' :: text) := by
  obtain ⟨digits, rest, rfl, hdigits, hhead, hlength⟩ := exists_digits true cs
  by_cases hsuffix : ∃ f ∈ rest.head?, f = 'f' ∨ f = 'F'
  · obtain ⟨f, hmem, hf⟩ := hsuffix
    obtain ⟨rest, rfl⟩ := List.head?_eq_some_iff.mp hmem
    refine ⟨.suffixed, digits ++ [f], rest, by simp, ?_, by simp, fun _ _ => rfl,
      fun _ hwhole => .suffixed hwhole hdigits hf⟩
    rw [hlength, decimalLength_suffix hf, List.length_append, List.length_singleton]
  · have hstop : decimalLength true rest = 0 := by
      cases rest with
      | nil => rfl
      | cons c rest =>
          exact decimalLength_cons_other (hhead c rfl) (fun _ => rfl)
            (fun hc => absurd ⟨c, rfl, hc⟩ hsuffix) rest
    exact ⟨.pointed, digits, rest, rfl, by rw [hlength, hstop]; rfl, by simp, hhead,
      fun _ hwhole => .pointed hwhole hdigits⟩

/-- **What is gone through is a decimal number**, and does not go on. -/
lemma exists_decimal {c : Char} (hc : Text.isDecimalDigit c = true ∨ c = '.') (cs : List Char) :
    ∃ form text rest, c :: cs = text ++ rest ∧ decimalLength false (c :: cs) = text.length ∧
      form ≠ NumberForm.hexadecimal ∧ (∀ d ∈ rest.head?, form.goesOn d = false) ∧
      form.Magnitude text := by
  obtain ⟨digits, rest, hsplit, hdigits, hhead, hlength⟩ := exists_digits false (c :: cs)
  rw [hlength, hsplit]
  by_cases hpoint : '.' ∈ rest.head?
  · obtain ⟨behind, rfl⟩ := List.head?_eq_some_iff.mp hpoint
    obtain ⟨form, text, rest, rfl, htext, hform, hstops, hmagnitude⟩ := exists_fraction behind
    refine ⟨form, digits ++ '.' :: text, rest, by simp, ?_, hform, hstops, hmagnitude _ hdigits⟩
    rw [decimalLength_point, htext, List.length_append, List.length_cons]
  · have hstop : decimalLength false rest = 0 := by
      cases rest with
      | nil => rfl
      | cons d rest =>
          exact decimalLength_cons_other (hhead d rfl)
            (fun hd => absurd (by rw [hd]; rfl) hpoint) (fun _ => rfl) rest
    have hne : digits ≠ [] := by
      rintro rfl
      rw [List.nil_append] at hsplit
      rw [← hsplit] at hhead hpoint
      rcases hc with hc | rfl
      · exact absurd (hhead c rfl) (by simp [hc])
      · exact hpoint rfl
    exact ⟨.whole, digits, rest, rfl, by rw [hstop]; rfl, by simp, hhead, .whole hne hdigits⟩

end Decimal

/-! ## Bites -/

section Bites

variable {form : NumberForm} {text rest : List Char} {kind : TokenKind}

@[simp] lemma boundedNumber_extra (extra : Nat) (rest : List Char) :
    (boundedNumber extra rest).extra = extra := by
  rw [boundedNumber]
  split_ifs <;> rfl

lemma boundedNumber_of_stops (h : ∀ d ∈ rest.head?, runsOn d = false) (extra : Nat) :
    boundedNumber extra rest = ⟨extra, .ok .number, true⟩ := by
  cases rest with
  | nil => rfl
  | cons c rest => simp [boundedNumber, h c rfl]

lemma stops_of_boundedNumber {extra : Nat} (h : (boundedNumber extra rest).outcome = .ok kind) :
    ∀ d ∈ rest.head?, runsOn d = false := by
  rw [boundedNumber] at h
  split_ifs at h with hruns
  intro d hd
  rw [Option.mem_def] at hd
  simpa [hd] using hruns

/-- The mark of a hexadecimal number is ahead, behind its zero. -/
def HexAhead (c : Char) (cs : List Char) : Prop := c = '0' ∧ ∃ x ∈ cs.head?, x = 'x' ∨ x = 'X'

lemma biteUnsigned_decimal (before : Nat) {c : Char} {cs : List Char} (h : ¬ HexAhead c cs) :
    biteUnsigned before (c :: cs) = boundedNumber (before + decimalLength (c = '.') cs)
      (cs.drop (decimalLength (c = '.') cs)) := by
  rw [biteUnsigned.eq_def]
  split
  · rename_i x rest heq
    obtain ⟨rfl, rfl⟩ := List.cons.inj heq
    have hx : ¬ (x = 'x' ∨ x = 'X') := fun hx => h ⟨rfl, x, rfl, hx⟩
    rw [if_neg (by simpa using hx)]
    rfl
  · rename_i heq
    obtain ⟨rfl, rfl⟩ := List.cons.inj heq
    rfl
  · rename_i heq
    cases heq

lemma biteUnsigned_hexadecimal (before : Nat) {x : Char} (h : x = 'x' ∨ x = 'X')
    (cs : List Char) :
    biteUnsigned before ('0' :: x :: cs) =
      if (cs.takeWhile isHexDigit).length = 0 then ⟨before + 1, .error .hexWithoutDigits, true⟩
      else boundedNumber (before + 1 + (cs.takeWhile isHexDigit).length)
        (cs.drop (cs.takeWhile isHexDigit).length) := by
  rw [biteUnsigned, if_pos (by simpa using h)]

/-- A decimal number has no mark behind its first digit. -/
lemma NumberForm.Magnitude.not_hexAhead {c : Char} {cs : List Char} (h : form.Magnitude (c :: cs))
    (hform : form ≠ .hexadecimal) (hstops : ∀ d ∈ rest.head?, form.StopsBefore d) :
    ¬ HexAhead c (cs ++ rest) := by
  rintro ⟨rfl, x, hx, hmark⟩
  obtain ⟨behind, hbehind⟩ := List.head?_eq_some_iff.mp hx
  have hlength := h.decimalLength hform hstops
  have hother : RegisterScript.decimalLength false (x :: behind) = 0 := by
    rcases hmark with rfl | rfl
    · exact decimalLength_cons_other (by decide) (by simp) (by simp) behind
    · exact decimalLength_cons_other (by decide) (by simp) (by simp) behind
  rw [List.cons_append, decimalLength_cons_digit (by decide), hbehind, hother, List.length_cons,
    Nat.add_right_cancel_iff, eq_comm, List.length_eq_zero_iff] at hlength
  subst hlength
  rw [List.nil_append] at hbehind
  subst hbehind
  have hruns := (hstops x rfl).2
  rcases hmark with rfl | rfl
  · exact absurd hruns (by decide)
  · exact absurd hruns (by decide)

/-- **A number that stops is bitten off whole.** -/
lemma biteUnsigned_magnitude (h : form.Magnitude text)
    (hstops : ∀ d ∈ rest.head?, form.StopsBefore d) (before : Nat) :
    biteUnsigned before (text ++ rest) = ⟨before + text.length - 1, .ok .number, true⟩ := by
  have hruns : ∀ d ∈ rest.head?, runsOn d = false := fun d hd => (hstops d hd).2
  by_cases hform : form = .hexadecimal
  · subst hform
    cases h with
    | @hexadecimal x digits hx hne hdigits =>
        have htake : (digits ++ rest).takeWhile isHexDigit = digits := by
          rw [List.takeWhile_append_of_pos hdigits]
          cases rest with
          | nil => simp
          | cons c rest =>
              have hc : isHexDigit c = false := (hstops c rfl).1
              rw [List.takeWhile_cons_of_neg (by simp [hc]), List.append_nil]
        have hlength : digits.length ≠ 0 := fun h => hne (List.length_eq_zero_iff.mp h)
        rw [List.cons_append, List.cons_append, biteUnsigned_hexadecimal before hx, htake,
          if_neg hlength, List.drop_left, boundedNumber_of_stops hruns]
        congr 1
        simp only [List.length_cons]
        omega
  · obtain ⟨c, cs, rfl, hc⟩ := h.exists_first
    have hlength := h.decimalLength hform hstops
    rw [List.cons_append, decimalLength_first hc, List.length_cons, Nat.add_right_cancel_iff]
      at hlength
    rw [List.cons_append, biteUnsigned_decimal before (h.not_hexAhead hform hstops), hlength,
      List.drop_left, boundedNumber_of_stops hruns]
    rfl

/-- **What is bitten off without a sign is a number that stops.** -/
lemma exists_magnitude_of_biteUnsigned {before : Nat} {c : Char} {cs : List Char}
    (hc : Text.isDecimalDigit c = true ∨ c = '.')
    (h : (biteUnsigned before (c :: cs)).outcome = .ok kind) :
    ∃ (form : NumberForm) (text rest : List Char), c :: cs = text ++ rest ∧
      (biteUnsigned before (c :: cs)).extra + 1 = before + text.length ∧
      form.Magnitude text ∧ ∀ d ∈ rest.head?, form.StopsBefore d := by
  by_cases hhex : HexAhead c cs
  · obtain ⟨rfl, x, hx, hmark⟩ := hhex
    obtain ⟨behind, rfl⟩ := List.head?_eq_some_iff.mp hx
    have hsplit := List.takeWhile_append_dropWhile (p := isHexDigit) (l := behind)
    have hdrop : (behind.takeWhile isHexDigit ++ behind.dropWhile isHexDigit).drop
        (behind.takeWhile isHexDigit).length = behind.dropWhile isHexDigit := List.drop_left
    rw [hsplit] at hdrop
    rw [biteUnsigned_hexadecimal before hmark, hdrop] at h ⊢
    split_ifs at h ⊢ with hlength
    refine ⟨.hexadecimal, '0' :: x :: behind.takeWhile isHexDigit, behind.dropWhile isHexDigit,
      by rw [List.cons_append, List.cons_append, hsplit], ?_, ?_, ?_⟩
    · rw [boundedNumber_extra]
      simp only [List.length_cons]
      omega
    · exact .hexadecimal hmark (fun hnil => hlength (by rw [hnil]; rfl))
        fun _ hd => List.mem_takeWhile_imp hd
    · intro d hd
      refine ⟨?_, stops_of_boundedNumber h d hd⟩
      have hhead := List.head?_dropWhile_not isHexDigit behind
      rw [Option.mem_def] at hd
      rw [hd] at hhead
      simpa [NumberForm.goesOn] using hhead
  · obtain ⟨form, text, rest, hsplit, hlength, -, hgoes, hmagnitude⟩ := exists_decimal hc cs
    obtain ⟨d, ds, rfl, -⟩ := hmagnitude.exists_first
    rw [List.cons_append] at hsplit
    obtain ⟨rfl, rfl⟩ := List.cons.inj hsplit
    rw [decimalLength_first hc, List.length_cons, Nat.add_right_cancel_iff] at hlength
    rw [biteUnsigned_decimal before hhex, hlength, List.drop_left] at h ⊢
    exact ⟨form, c :: ds, rest, rfl, by rw [boundedNumber_extra]; rfl, hmagnitude,
      fun d hd => ⟨hgoes d hd, stops_of_boundedNumber h d hd⟩⟩

lemma runsOn_eq_false_iff (c : Char) :
    runsOn c = false ↔ Text.isLetter c = false ∧ c ≠ '_' ∧ c ≠ '.' := by
  simp [runsOn, and_assoc]

lemma startsNumber_iff (c : Char) :
    startsNumber c = true ↔ c = '-' ∨ Text.isDecimalDigit c = true ∨ c = '.' := by
  simp only [startsNumber, Bool.or_eq_true, decide_eq_true_eq]
  tauto

lemma startsName_eq_false_of_startsNumber {c : Char} (h : startsNumber c = true) :
    startsName c = false := by
  rcases (startsNumber_iff c).mp h with rfl | h | rfl
  · decide
  · have hunderscore : c ≠ '_' := ne_of_isDecimalDigit h (by decide)
    simp [startsName, isLetter_eq_false_of_isDecimalDigit h, hunderscore]
  · decide

lemma NumberForm.Spells.startsNumber {negative : Bool} {c : Char}
    (h : form.Spells negative (c :: text)) : RegisterScript.startsNumber c = true := by
  obtain ⟨magnitude, hmagnitude, heq⟩ := h
  rw [startsNumber_iff]
  cases negative with
  | true => exact .inl (List.cons.inj heq).1
  | false =>
      obtain ⟨d, ds, rfl, hd⟩ := hmagnitude.exists_first
      obtain ⟨rfl, -⟩ := List.cons.inj heq
      exact .inr hd

/-- **A number that stops is scanned**, with its sign. -/
lemma bite_number {negative : Bool} {c : Char} (h : form.Spells negative (c :: text))
    (hstops : ∀ d ∈ rest.head?, form.StopsBefore d) :
    bite c (text ++ rest) = ⟨text.length, .ok .number, true⟩ := by
  have hnumber := h.startsNumber
  have hname := startsName_eq_false_of_startsNumber hnumber
  rw [bite, if_neg (by simp [hname]), if_pos hnumber]
  obtain ⟨magnitude, hmagnitude, heq⟩ := h
  obtain ⟨d, ds, rfl, hd⟩ := hmagnitude.exists_first
  cases negative with
  | true =>
      obtain ⟨rfl, rfl⟩ := List.cons.inj heq
      rw [biteNumber, if_pos rfl, if_pos (by simpa using hd),
        biteUnsigned_magnitude hmagnitude hstops, Nat.add_sub_cancel_left]
  | false =>
      obtain ⟨rfl, rfl⟩ := List.cons.inj heq
      have hsign : c ≠ '-' := by
        rintro rfl
        exact absurd hd (by decide)
      rw [biteNumber, if_neg hsign, ← List.cons_append, biteUnsigned_magnitude hmagnitude hstops,
        List.length_cons, Nat.zero_add, Nat.add_sub_cancel]

/-- **What is bitten off as a number is one that stops.** -/
lemma exists_spells_of_biteNumber {c : Char} {cs : List Char} (hc : startsNumber c = true)
    (h : (biteNumber c cs).outcome = .ok kind) :
    ∃ (form : NumberForm) (negative : Bool) (text rest : List Char), cs = text ++ rest ∧
      (biteNumber c cs).extra = text.length ∧ form.Spells negative (c :: text) ∧
      ∀ d ∈ rest.head?, form.StopsBefore d := by
  rw [biteNumber] at h ⊢
  split_ifs at h ⊢ with hsign hdigit
  · cases cs with
    | nil => cases hdigit
    | cons d cs =>
        have hd : Text.isDecimalDigit d = true ∨ d = '.' := by simpa using hdigit
        obtain ⟨form, text, rest, hsplit, hextra, hmagnitude, hstops⟩ :=
          exists_magnitude_of_biteUnsigned hd h
        exact ⟨form, true, text, rest, hsplit, by omega, ⟨text, hmagnitude, by rw [hsign]; rfl⟩,
          hstops⟩
  · have hc := ((startsNumber_iff c).mp hc).resolve_left hsign
    obtain ⟨form, text, rest, hsplit, hextra, hmagnitude, hstops⟩ :=
      exists_magnitude_of_biteUnsigned hc h
    obtain ⟨d, ds, rfl, -⟩ := hmagnitude.exists_first
    obtain ⟨rfl, rfl⟩ := List.cons.inj hsplit
    rw [List.length_cons] at hextra
    exact ⟨form, false, ds, rest, rfl, by omega, ⟨_, hmagnitude, rfl⟩, hstops⟩

lemma exists_spells_of_bite {c : Char} {cs : List Char} (h : (bite c cs).outcome = .ok .number) :
    ∃ (form : NumberForm) (negative : Bool) (text rest : List Char), cs = text ++ rest ∧
      (bite c cs).extra = text.length ∧ form.Spells negative (c :: text) ∧
      ∀ d ∈ rest.head?, form.StopsBefore d := by
  rw [bite] at h ⊢
  split_ifs at h ⊢ with hname hnumber hslash hmark
  · dsimp only at h
    split_ifs at h <;> cases h
  · exact exists_spells_of_biteNumber hnumber h
  · cases h

end Bites

end RegisterScript
