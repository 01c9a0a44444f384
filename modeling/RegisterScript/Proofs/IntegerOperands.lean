import Mathlib.Data.List.TakeWhile
import Mathlib.Data.Nat.Digits.Defs
import RegisterScript.Proofs.Spelling

/-!
# Integers as operands

An integer is read digit by digit, and given up as soon as it no longer fits.  This file says what
comes of it without following the digits: the number that they stand for, if it fits, and a range
error if it does not.

**Digits.**  Reading digits gives the number with those digits, or runs out of range
(`Numeral.readUnsigned_of_digits`); whether it does is decided by the number alone, because a value
that has become too large never becomes smaller.

**Components.**  The form of a component is chosen by its first characters, after blanks around it
have been dropped (`readCell_padded`); `readCell_hexadecimal`, `readCell_whole` and `readCell_minus`
are the three forms without a point.

**Written integers.**  `IntegerNumeral` is an integer as it may be written, with its text, its value
and its limits.  Each is read to its value modulo 2^32 or refused as out of range
(`IntegerNumeral.readCell_text`), and so is an operand that consists of them
(`Operand.read_integers`): one to four components fail for a component or not at all
(`Operand.exists_of_read_eq_error`), and five or more always fail.
-/

namespace RegisterScript

/-! ## Digits -/

namespace Numeral

lemma code_of_digitValue? {base : Nat} {c : Char} (h : (digitValue? base c).isSome) :
    0x30 ≤ c.toNat ∧ c.toNat ≤ 0x66 := by
  rw [digitValue?] at h
  split_ifs at h
  · omega
  · omega
  · omega
  · simp at h

lemma code_of_digitValue?_ten {c : Char} (h : (digitValue? 10 c).isSome) :
    0x30 ≤ c.toNat ∧ c.toNat ≤ 0x39 := by
  rw [digitValue?] at h
  split_ifs at h with hdecimal
  · exact hdecimal
  · simp [Option.filter] at h
  · simp [Option.filter] at h
  · simp at h

lemma isBlank_eq_false_of_digitValue? {base : Nat} {c : Char} (h : (digitValue? base c).isSome) :
    Text.isBlank c = false := by
  have hcode := code_of_digitValue? h
  exact isBlank_eq_false_of_code (by omega) (by omega)

/-- The characters are these digits of the base, in this order. -/
def Shows (base : Nat) (cs : List Char) (digits : List Nat) : Prop :=
  List.Forall₂ (fun c d => digitValue? base c = some d) cs digits

lemma exists_shows {base : Nat} {cs : List Char} (h : ∀ c ∈ cs, (digitValue? base c).isSome) :
    ∃ digits, Shows base cs digits := by
  induction cs with
  | nil => exact ⟨[], .nil⟩
  | cons c cs ih =>
      obtain ⟨d, hd⟩ := Option.isSome_iff_exists.mp (h c (by simp))
      obtain ⟨digits, hdigits⟩ := ih fun e he => h e (by simp [he])
      exact ⟨d :: digits, .cons hd hdigits⟩

lemma Shows.isSome {base : Nat} {cs : List Char} {digits : List Nat} (h : Shows base cs digits) :
    ∀ c ∈ cs, (digitValue? base c).isSome := by
  induction h with
  | nil => simp
  | cons hd _ ih => exact List.forall_mem_cons.mpr ⟨by rw [hd]; rfl, ih⟩

/-- **Digits behind a number** make a larger one, or run out of range. -/
lemma readDigits_of_digits {base n : Nat} {cs : List Char} {digits : List Nat}
    (hbase : 0 < base) (hn : n < cellValues) (h : Shows base cs digits) :
    readDigits base n cs =
      if n * base ^ digits.length + Nat.ofDigits base digits.reverse < cellValues then
        .ok (n * base ^ digits.length + Nat.ofDigits base digits.reverse)
      else .error .outOfRange := by
  induction h generalizing n with
  | nil => simp [readDigits, hn]
  | @cons c d cs digits hd _ ih =>
      have hvalue : n * base ^ (d :: digits).length + Nat.ofDigits base (d :: digits).reverse
          = (n * base + d) * base ^ digits.length + Nat.ofDigits base digits.reverse := by
        rw [Nat.ofDigits_reverse_cons, List.length_cons]
        ring
      rw [readDigits, hd, hvalue]
      dsimp only
      split_ifs with hlt hfits hfits
      · rw [ih hlt, if_pos hfits]
      · rw [ih hlt, if_neg hfits]
      · -- further digits do not make a number smaller
        have hle : n * base + d ≤ (n * base + d) * base ^ digits.length :=
          Nat.le_mul_of_pos_right _ (Nat.pow_pos hbase)
        omega
      · rfl

/-- **Digits give their number**, or run out of range. -/
lemma readUnsigned_of_digits {base : Nat} {cs : List Char} {digits : List Nat} (hbase : 0 < base)
    (hne : cs ≠ []) (h : Shows base cs digits) :
    readUnsigned base cs =
      if Nat.ofDigits base digits.reverse < cellValues then .ok (Nat.ofDigits base digits.reverse)
      else .error .outOfRange := by
  have hzero : 0 < cellValues := by decide
  have hread := readDigits_of_digits hbase hzero h
  rw [Nat.zero_mul, Nat.zero_add] at hread
  cases cs with
  | nil => exact absurd rfl hne
  | cons c cs => exact hread

/-- Behind a minus sign, half the range is left. -/
lemma readNegative_of_digits {cs : List Char} {digits : List Nat} (hne : cs ≠ [])
    (h : Shows 10 cs digits) :
    readNegative cs =
      if 2 * Nat.ofDigits 10 digits.reverse ≤ cellValues then
        .ok (0 - UInt32.ofNat (Nat.ofDigits 10 digits.reverse))
      else .error .outOfRange := by
  have hpos : 0 < cellValues := by decide
  rw [readNegative, readUnsigned_of_digits (by decide) hne h]
  by_cases hlt : Nat.ofDigits 10 digits.reverse < cellValues
  · rw [if_pos hlt]
    rfl
  · rw [if_neg hlt, if_neg (by omega)]
    rfl

end Numeral

/-! ## Components -/

section Components

open Numeral

lemma trim_padded {before cs behind : List Char} (hbefore : ∀ c ∈ before, Text.isBlank c = true)
    (hbehind : ∀ c ∈ behind, Text.isBlank c = true) (hcs : ∀ c ∈ cs, Text.isBlank c = false) :
    Text.trim (before ++ cs ++ behind) = cs := by
  -- where nothing stands between the blanks, those behind go with those in front
  have hfront : (before ++ cs ++ behind).dropWhile Text.isBlank = cs ++ behind ∨ cs = [] := by
    rw [List.append_assoc, List.dropWhile_append_of_pos hbefore]
    cases cs with
    | nil => exact .inr rfl
    | cons c cs =>
        left
        rw [List.cons_append, List.dropWhile_cons_of_neg (by simp [hcs c (by simp)])]
  rcases hfront with hfront | rfl
  · have hback : ∀ c ∈ behind.reverse, Text.isBlank c = true :=
      fun c hc => hbehind c (List.mem_reverse.mp hc)
    have hrest : ∀ c ∈ cs.reverse, Text.isBlank c = false :=
      fun c hc => hcs c (List.mem_reverse.mp hc)
    rw [Text.trim, hfront, List.reverse_append, List.dropWhile_append_of_pos hback,
      dropWhile_eq_self hrest, List.reverse_reverse]
  · have hall : ∀ c ∈ before ++ behind, Text.isBlank c = true := by
      intro c hc
      exact (List.mem_append.mp hc).elim (hbefore c) (hbehind c)
    rw [Text.trim, List.append_nil, List.dropWhile_eq_nil_iff.mpr hall]
    rfl

/-- Blanks around a component do not count. -/
lemma readCell_padded {before cs behind : List Char}
    (hbefore : ∀ c ∈ before, Text.isBlank c = true)
    (hbehind : ∀ c ∈ behind, Text.isBlank c = true) (hcs : ∀ c ∈ cs, Text.isBlank c = false) :
    readCell (before ++ cs ++ behind) = readCell cs := by
  rw [readCell, readCell, trim_padded hbefore hbehind hcs, trim_eq_self hcs]

lemma isBlank_of_mem_hexadecimal {x : Char} {digits : List Char} (hx : x = 'x' ∨ x = 'X')
    (hdigits : ∀ d ∈ digits, (digitValue? 16 d).isSome) :
    ∀ c ∈ '0' :: x :: digits, Text.isBlank c = false := by
  simp only [List.forall_mem_cons]
  refine ⟨by decide, ?_, fun d hd => isBlank_eq_false_of_digitValue? (hdigits d hd)⟩
  rcases hx with rfl | rfl <;> decide

lemma readCell_hexadecimal {x : Char} {digits : List Char} (hx : x = 'x' ∨ x = 'X')
    (hne : digits ≠ []) (hdigits : ∀ d ∈ digits, (digitValue? 16 d).isSome) :
    readCell ('0' :: x :: digits) = componentResult .hex .unsigned ('0' :: x :: digits) digits
      ((readUnsigned 16 digits).map UInt32.ofNat) := by
  have hsolid := isBlank_of_mem_hexadecimal hx hdigits
  obtain ⟨d, digits, rfl⟩ := List.exists_cons_of_ne_nil hne
  rw [readCell, trim_eq_self hsolid]
  simp [hx]

/-- The value of a component without the mark of a hexadecimal one: it goes by its point, then by
its sign. -/
def readUnmarked (cs : List Char) : Except OperandError Cell :=
  if '.' ∈ cs then
    componentResult .float .floating cs (dropFloatSuffix cs) (readFloating (dropFloatSuffix cs))
  else match cs with
    | '-' :: digits => componentResult .integer .signed cs cs (readNegative digits)
    | _ => componentResult .integer .unsigned cs cs ((readUnsigned 10 cs).map UInt32.ofNat)

lemma readCell_unmarked {cs : List Char} (hsolid : ∀ c ∈ cs, Text.isBlank c = false)
    (hmark : ∀ x rest, cs = '0' :: x :: rest → x ≠ 'x' ∧ x ≠ 'X') :
    readCell cs = readUnmarked cs := by
  rw [readCell, trim_eq_self hsolid]
  dsimp only
  split
  · rename_i x d rest
    have hx := hmark x (d :: rest) rfl
    rw [if_neg (by tauto)]
    rfl
  · rfl

lemma readCell_minus {cs : List Char} (hsolid : ∀ c ∈ cs, Text.isBlank c = false)
    (hpoint : '.' ∉ cs) :
    readCell ('-' :: cs) = componentResult .integer .signed ('-' :: cs) ('-' :: cs)
      (readNegative cs) := by
  have hsolid : ∀ c ∈ '-' :: cs, Text.isBlank c = false :=
    List.forall_mem_cons.mpr ⟨by decide, hsolid⟩
  rw [readCell_unmarked hsolid (by simp), readUnmarked, if_neg (by simpa using hpoint)]

lemma readCell_whole {digits : List Char} (hdigits : ∀ d ∈ digits, (digitValue? 10 d).isSome) :
    readCell digits = componentResult .integer .unsigned digits digits
      ((readUnsigned 10 digits).map UInt32.ofNat) := by
  have hnot : ∀ c, (digitValue? 10 c).isSome = false → c ∉ digits :=
    fun c hc hmem => by simp [hdigits c hmem] at hc
  rw [readCell_unmarked fun d hd => isBlank_eq_false_of_digitValue? (hdigits d hd)]
  · rw [readUnmarked, if_neg (hnot '.' (by decide))]
    rintro rest rfl
    exact hnot '-' (by decide) (by simp)
  · rintro x rest rfl
    exact ⟨fun hx => hnot 'x' (by decide) (by simp [hx]),
      fun hx => hnot 'X' (by decide) (by simp [hx])⟩

/-- What a refusal finds wrong with a component. -/
def OperandError.flaw? : OperandError → Option Flaw
  | .component _ _ cause => some cause.flaw
  | .wrongCount _ _ _ => none
  | .tooMany _ _ => none

/-- The result is a refusal with this flaw. -/
def Refused {α : Type} (result : Except OperandError α) (flaw : Flaw) : Prop :=
  ∃ e, result = .error e ∧ e.flaw? = some flaw

lemma refused_componentResult (form : ComponentForm) (kind : Kind) (component part : List Char)
    (flaw : Flaw) : Refused (componentResult form kind component part (.error flaw)) flaw :=
  ⟨_, rfl, rfl⟩

end Components

/-! ## Written integers -/

/-- A digit of base sixteen; the letters may be capitals. -/
structure HexDigit where
  value : Fin 16
  capital : Bool

/-- The character for a digit. -/
def HexDigit.char (d : HexDigit) : Char :=
  if d.capital then (Nat.digitChar d.value).toUpper else Nat.digitChar d.value

/-- An integer as it may be written.  Zeros in front are digits like the others. -/
inductive IntegerNumeral where
  | decimal (digits : List (Fin 10)) (nonempty : digits ≠ [])
  | negative (digits : List (Fin 10)) (nonempty : digits ≠ [])
  | hexadecimal (capital : Bool) (digits : List HexDigit) (nonempty : digits ≠ [])

namespace IntegerNumeral

open Numeral

/-- What is written. -/
def text : IntegerNumeral → List Char
  | decimal digits _ => digits.map fun d => d.val.digitChar
  | negative digits _ => '-' :: digits.map fun d => d.val.digitChar
  | hexadecimal capital digits _ =>
    '0' :: (if capital then 'X' else 'x') :: digits.map HexDigit.char

/-- The number that its digits stand for, the first of them counting most. -/
def magnitude : IntegerNumeral → Nat
  | decimal digits _ => Nat.ofDigits 10 (digits.map Fin.val).reverse
  | negative digits _ => Nat.ofDigits 10 (digits.map Fin.val).reverse
  | hexadecimal _ digits _ => Nat.ofDigits 16 (digits.map fun d => d.value.val).reverse

/-- The integer. -/
def value : IntegerNumeral → Int
  | n@(decimal _ _) => n.magnitude
  | n@(negative _ _) => -n.magnitude
  | n@(hexadecimal _ _ _) => n.magnitude

/-- The integer fits into a cell: as it is without a sign, in two's complement with one. -/
def Fits : IntegerNumeral → Prop
  | n@(decimal _ _) => n.value < 2 ^ 32
  | n@(negative _ _) => -2 ^ 31 ≤ n.value
  | n@(hexadecimal _ _ _) => n.value < 2 ^ 32

instance : DecidablePred Fits := fun n =>
  match n with
  | decimal _ _ => inferInstanceAs (Decidable (_ < _))
  | negative _ _ => inferInstanceAs (Decidable (_ ≤ _))
  | hexadecimal _ _ _ => inferInstanceAs (Decidable (_ < _))

lemma shows_decimal (digits : List (Fin 10)) :
    Shows 10 (digits.map fun d => d.val.digitChar) (digits.map Fin.val) := by
  have hdigit : ∀ d : Fin 10, digitValue? 10 d.val.digitChar = some d.val := by decide
  rw [Shows, List.forall₂_map_left_iff, List.forall₂_map_right_iff, List.forall₂_same]
  intro d _
  exact hdigit d

lemma shows_hexadecimal (digits : List HexDigit) :
    Shows 16 (digits.map HexDigit.char) (digits.map fun d => d.value.val) := by
  have hdigit : ∀ (value : Fin 16) (capital : Bool),
      digitValue? 16 (HexDigit.char ⟨value, capital⟩) = some value.val := by decide
  rw [Shows, List.forall₂_map_left_iff, List.forall₂_map_right_iff, List.forall₂_same]
  intro d _
  exact hdigit d.value d.capital

/-- The characters of an integer are digits, behind a sign or a mark. -/
lemma mem_text {n : IntegerNumeral} {c : Char} (h : c ∈ n.text) :
    c = '-' ∨ c = 'x' ∨ c = 'X' ∨ (digitValue? 16 c).isSome := by
  have hten : ∀ d, (digitValue? 10 d).isSome → (digitValue? 16 d).isSome := by
    intro d hd
    have hcode := code_of_digitValue?_ten hd
    have hlt : d.toNat - 0x30 < 16 := by omega
    simp [digitValue?, hcode, hlt]
  cases n with
  | decimal digits _ => exact .inr (.inr (.inr (hten c ((shows_decimal digits).isSome c h))))
  | negative digits _ =>
      rcases List.mem_cons.mp h with rfl | h
      · exact .inl rfl
      · exact .inr (.inr (.inr (hten c ((shows_decimal digits).isSome c h))))
  | hexadecimal capital digits _ =>
      simp only [text, List.mem_cons] at h
      rcases h with rfl | rfl | h
      · exact .inr (.inr (.inr (by decide)))
      · cases capital <;> simp
      · exact .inr (.inr (.inr ((shows_hexadecimal digits).isSome c h)))

lemma isBlank_of_mem_text {n : IntegerNumeral} {c : Char} (h : c ∈ n.text) :
    Text.isBlank c = false := by
  rcases mem_text h with rfl | rfl | rfl | hdigit
  · decide
  · decide
  · decide
  · exact isBlank_eq_false_of_digitValue? hdigit

lemma comma_not_mem_text (n : IntegerNumeral) : ',' ∉ n.text := fun h =>
  absurd (mem_text h) (by decide)

/-- **An integer is read to its value modulo 2^32** if it fits, and is out of range otherwise. -/
lemma readCell_text (n : IntegerNumeral) :
    (n.Fits ∧ ∃ cell, readCell n.text = .ok cell ∧ (cell.toNat : Int) = n.value % 2 ^ 32) ∨
      (¬ n.Fits ∧ Refused (readCell n.text) .outOfRange) := by
  have hvalues : cellValues = 2 ^ 32 := by decide
  cases n with
  | decimal digits nonempty =>
      have hread := readUnsigned_of_digits (by decide) (by simpa using nonempty)
        (shows_decimal digits)
      simp only [Fits, value, magnitude, text]
      rw [readCell_whole (shows_decimal digits).isSome, hread]
      set n := Nat.ofDigits 10 (digits.map Fin.val).reverse
      split_ifs with hlt
      · refine .inl ⟨by omega, UInt32.ofNat n, rfl, ?_⟩
        rw [UInt32.toNat_ofNat_of_lt' hlt]
        omega
      · exact .inr ⟨by omega, refused_componentResult ..⟩
  | negative digits nonempty =>
      have hread := readNegative_of_digits (by simpa using nonempty) (shows_decimal digits)
      have hsolid := fun c (hc : c ∈ digits.map fun d => d.val.digitChar) =>
        isBlank_eq_false_of_digitValue? ((shows_decimal digits).isSome c hc)
      have hpoint : '.' ∉ digits.map fun d => d.val.digitChar := fun hmem =>
        absurd ((shows_decimal digits).isSome _ hmem) (by decide)
      simp only [Fits, value, magnitude, text]
      rw [readCell_minus hsolid hpoint, hread]
      set n := Nat.ofDigits 10 (digits.map Fin.val).reverse
      split_ifs with hle
      · refine .inl ⟨by omega, 0 - UInt32.ofNat n, rfl, ?_⟩
        have hlt : n < cellValues := by omega
        rw [UInt32.toNat_sub, UInt32.toNat_ofNat_of_lt' hlt]
        simp only [UInt32.toNat_zero]
        omega
      · exact .inr ⟨by omega, refused_componentResult ..⟩
  | hexadecimal capital digits nonempty =>
      obtain ⟨x, hx, hmark⟩ : ∃ x, (if capital then 'X' else 'x') = x ∧ (x = 'x' ∨ x = 'X') := by
        cases capital <;> simp
      have hne : digits.map HexDigit.char ≠ [] := by simpa using nonempty
      have hread := readUnsigned_of_digits (by decide) hne (shows_hexadecimal digits)
      simp only [Fits, value, magnitude, text, hx]
      rw [readCell_hexadecimal hmark hne (shows_hexadecimal digits).isSome, hread]
      set n := Nat.ofDigits 16 (digits.map fun d => d.value.val).reverse
      split_ifs with hlt
      · refine .inl ⟨by omega, UInt32.ofNat n, rfl, ?_⟩
        rw [UInt32.toNat_ofNat_of_lt' hlt]
        omega
      · exact .inr ⟨by omega, refused_componentResult ..⟩

lemma fits_of_readCell_text {n : IntegerNumeral} {cell : Cell} (h : readCell n.text = .ok cell) :
    n.Fits ∧ (cell.toNat : Int) = n.value % 2 ^ 32 := by
  rcases n.readCell_text with ⟨hfits, cell', hcell, hvalue⟩ | ⟨-, e, herror, -⟩
  · rw [h] at hcell
    cases hcell
    exact ⟨hfits, hvalue⟩
  · rw [h] at herror
    cases herror

lemma flaw_of_readCell_text {n : IntegerNumeral} {e : OperandError}
    (h : readCell n.text = .error e) : ¬ n.Fits ∧ e.flaw? = some .outOfRange := by
  rcases n.readCell_text with ⟨-, cell, hcell, -⟩ | ⟨hfits, e', herror, hflaw⟩
  · rw [h] at hcell
    cases hcell
  · rw [h] at herror
    cases herror
    exact ⟨hfits, hflaw⟩

end IntegerNumeral

/-! ## Operands -/

/-- An integer with blanks around it. -/
structure IntegerComponent where
  before : List Char
  numeral : IntegerNumeral
  behind : List Char
  blank_before : ∀ c ∈ before, Text.isBlank c = true
  blank_behind : ∀ c ∈ behind, Text.isBlank c = true

namespace IntegerComponent

/-- What is written. -/
def text (component : IntegerComponent) : List Char :=
  component.before ++ component.numeral.text ++ component.behind

lemma readCell_text (component : IntegerComponent) :
    readCell component.text = readCell component.numeral.text :=
  readCell_padded component.blank_before component.blank_behind
    fun _ hc => IntegerNumeral.isBlank_of_mem_text hc

lemma comma_not_mem_text (component : IntegerComponent) : ',' ∉ component.text := by
  have hcomma : Text.isBlank ',' = false := by decide
  have hblank : ∀ cs : List Char, (∀ c ∈ cs, Text.isBlank c = true) → ',' ∉ cs :=
    fun cs hcs hmem => by simp [hcs ',' hmem] at hcomma
  simp only [text, List.mem_append, not_or]
  exact ⟨⟨hblank _ component.blank_before, component.numeral.comma_not_mem_text⟩,
    hblank _ component.blank_behind⟩

end IntegerComponent

lemma exists_of_mapM_readCell_eq_error {pieces : List (List Char)} {e : OperandError}
    (h : pieces.mapM readCell = .error e) : ∃ piece ∈ pieces, readCell piece = .error e := by
  induction pieces with
  | nil => simp [pure, Except.pure] at h
  | cons piece pieces ih =>
      rw [List.mapM_cons] at h
      cases hpiece : readCell piece with
      | error e' =>
          rw [hpiece] at h
          cases h
          exact ⟨piece, by simp, hpiece⟩
      | ok c =>
          cases hpieces : pieces.mapM readCell with
          | error e' =>
              rw [hpiece, hpieces] at h
              cases h
              obtain ⟨other, hmem, hother⟩ := ih hpieces
              exact ⟨other, by simp [hmem], hother⟩
          | ok cells =>
              rw [hpiece, hpieces] at h
              cases h

lemma Operand.exists_ofCells?_eq_some {cells : List Cell} (hne : cells ≠ [])
    (hlength : cells.length ≤ 4) : ∃ v, Operand.ofCells? cells = some v := by
  match cells, hne, hlength with
  | [_], _, _ => exact ⟨_, rfl⟩
  | [_, _], _, _ => exact ⟨_, rfl⟩
  | [_, _, _], _, _ => exact ⟨_, rfl⟩
  | [_, _, _, _], _, _ => exact ⟨_, rfl⟩

/-- **One to four components are refused for one of them**, with the error that it has alone. -/
lemma Operand.exists_of_read_eq_error {pieces : List (List Char)} {e : OperandError}
    (hne : pieces ≠ []) (hlength : pieces.length ≤ 4) (hcomma : ∀ piece ∈ pieces, ',' ∉ piece)
    (h : Operand.read ([','].intercalate pieces) = .error e) :
    ∃ piece ∈ pieces, readCell piece = .error e := by
  rw [Operand.read, count_intercalate hne hcomma, if_pos hlength] at h
  split_ifs at h with hone
  · obtain ⟨piece, rfl⟩ := List.length_eq_one_iff.mp hone
    rw [List.intercalate_singleton] at h
    cases hpiece : readCell piece with
    | ok c => simp [hpiece] at h
    | error e' =>
        rw [hpiece] at h
        cases h
        exact ⟨piece, by simp, hpiece⟩
  · rw [readVector, readCells, split_intercalate hne hcomma, if_pos rfl] at h
    cases hcells : pieces.mapM readCell with
    | error e' =>
        rw [hcells] at h
        cases h
        exact exists_of_mapM_readCell_eq_error hcells
    | ok cells =>
        have hsame := (mapM_readCell_eq_ok_iff.mp hcells).length_eq
        have hpos := List.length_pos_iff.mpr hne
        have hcellsne : cells ≠ [] := List.length_pos_iff.mp (by omega)
        obtain ⟨v, hv⟩ := Operand.exists_ofCells?_eq_some hcellsne (by omega)
        simp [hcells, bind, Except.bind, hv] at h

lemma length_le_count_intercalate (separator : Char) (pieces : List (List Char)) :
    pieces.length ≤ ([separator].intercalate pieces).count separator + 1 := by
  induction pieces with
  | nil => simp
  | cons piece pieces ih =>
      cases pieces with
      | nil => simp
      | cons next pieces =>
          rw [List.intercalate_cons_cons, List.count_append, List.count_append]
          simp only [List.count_singleton_self, List.length_cons] at ih ⊢
          omega

/-- More than four components are refused whatever they are. -/
lemma Operand.read_of_five_le {pieces : List (List Char)} (h : 5 ≤ pieces.length) :
    ∃ e, Operand.read ([','].intercalate pieces) = .error e := by
  have hcount := length_le_count_intercalate ',' pieces
  rw [Operand.read, if_neg (by omega), if_neg (by omega)]
  exact ⟨_, rfl⟩

/-- The text of an operand with integer components. -/
def joinComponents (components : List IntegerComponent) : List Char :=
  [','].intercalate (components.map IntegerComponent.text)

section Joined

variable {components : List IntegerComponent}

lemma comma_not_mem_of_mem_map_text :
    ∀ piece ∈ components.map IntegerComponent.text, ',' ∉ piece := by
  intro piece hpiece
  obtain ⟨component, -, rfl⟩ := List.mem_map.mp hpiece
  exact component.comma_not_mem_text

/-- An operand that is read has the values of its components, and they fit. -/
lemma Operand.fits_of_read_joined (hne : components ≠ []) {v : Operand}
    (h : Operand.read (joinComponents components) = .ok v) :
    (∀ component ∈ components, component.numeral.Fits) ∧
      v.cells.map (fun c => (c.toNat : Int))
        = components.map fun component => component.numeral.value % 2 ^ 32 := by
  rw [joinComponents, read_intercalate_iff (by simpa using hne) comma_not_mem_of_mem_map_text,
    List.forall₂_map_left_iff] at h
  have hcells : List.Forall₂ (fun component (c : Cell) => component.numeral.Fits ∧
      (c.toNat : Int) = component.numeral.value % 2 ^ 32) components v.cells := by
    refine h.imp fun component c hc => IntegerNumeral.fits_of_readCell_text ?_
    rwa [component.readCell_text] at hc
  obtain ⟨hfits, hvalues⟩ := (List.forall₂_and_left ..).mp hcells
  refine ⟨hfits, ?_⟩
  rw [← List.forall₂_eq_eq_eq, List.forall₂_map_left_iff, List.forall₂_map_right_iff]
  exact hvalues.flip

/-- An operand that is refused has a component that does not fit, and is refused for that. -/
lemma Operand.flaw_of_read_joined (hne : components ≠ []) (hlength : components.length ≤ 4)
    {e : OperandError} (h : Operand.read (joinComponents components) = .error e) :
    (∃ component ∈ components, ¬ component.numeral.Fits) ∧ e.flaw? = some .outOfRange := by
  obtain ⟨piece, hpiece, herror⟩ := exists_of_read_eq_error (by simpa using hne)
    (by simpa using hlength) comma_not_mem_of_mem_map_text h
  obtain ⟨component, hmem, rfl⟩ := List.mem_map.mp hpiece
  rw [component.readCell_text] at herror
  obtain ⟨hfits, hflaw⟩ := IntegerNumeral.flaw_of_readCell_text herror
  exact ⟨⟨component, hmem, hfits⟩, hflaw⟩

end Joined

/-- **Integer operands are read to the value that they denote.**  An operand reads back from its
text; one to four integers, written in any way, give the operand of that arity with their values
modulo 2^32, or a range error if one of them does not fit; and more than four components always
fail. -/
theorem Operand.read_integers :
    (∀ v : Operand, Operand.read v.render.toList = .ok v) ∧
      (∀ components : List IntegerComponent, components ≠ [] → components.length ≤ 4 →
        ((∀ component ∈ components, component.numeral.Fits) →
          ∃ v, Operand.read (joinComponents components) = .ok v ∧
            v.cells.map (fun c => (c.toNat : Int))
              = components.map fun component => component.numeral.value % 2 ^ 32) ∧
        ((∃ component ∈ components, ¬ component.numeral.Fits) →
          Refused (Operand.read (joinComponents components)) .outOfRange)) ∧
      ∀ pieces : List (List Char), 5 ≤ pieces.length →
        ∃ e, Operand.read ([','].intercalate pieces) = .error e := by
  refine ⟨Operand.read_render, fun components hne hlength => ?_,
    fun _ hmany => Operand.read_of_five_le hmany⟩
  cases h : Operand.read (joinComponents components) with
  | ok v =>
      obtain ⟨hfits, hvalues⟩ := Operand.fits_of_read_joined hne h
      refine ⟨fun _ => ⟨v, rfl, hvalues⟩, ?_⟩
      rintro ⟨component, hmem, hnot⟩
      exact absurd (hfits component hmem) hnot
  | error e =>
      obtain ⟨⟨component, hmem, hnot⟩, hflaw⟩ := Operand.flaw_of_read_joined hne hlength h
      exact ⟨fun hfits => absurd (hfits component hmem) hnot, fun _ => ⟨e, rfl, hflaw⟩⟩

/-- `" 0X00fF"`, `"-2147483648"` and `"007 "` behind a blank that does not break. -/
def IntegerComponent.assorted : List IntegerComponent :=
  [⟨[' '], .hexadecimal true [⟨0, false⟩, ⟨0, false⟩, ⟨15, false⟩, ⟨15, true⟩] (by simp), [],
      List.all_eq_true.mp (by decide), by simp⟩,
    ⟨[], .negative [2, 1, 4, 7, 4, 8, 3, 6, 4, 8] (by simp), [], by simp, by simp⟩,
    ⟨['\u00a0'], .decimal [0, 0, 7] (by simp), [' '], List.all_eq_true.mp (by decide),
      List.all_eq_true.mp (by decide)⟩]

/-- `"4294967296"`, the first that does not fit. -/
def IntegerComponent.large : IntegerComponent :=
  ⟨[], .decimal [4, 2, 9, 4, 9, 6, 7, 2, 9, 6] (by simp), [], by simp, by simp⟩

/-- The three are read to their values, with the fourth they are out of range, and a comma more is
too much. -/
theorem Operand.read_integers_assorted :
    (∃ v, Operand.read " 0X00fF,-2147483648,\u00a0007 ".toList = .ok v ∧
        v.cells.map (fun c => (c.toNat : Int)) = [0xFF, 0x80000000, 7]) ∧
      Refused (Operand.read " 0X00fF,-2147483648,\u00a0007 ,4294967296".toList) .outOfRange ∧
      ∃ e, Operand.read "1,2,3,4,".toList = .error e := by
  obtain ⟨-, hintegers, hmany⟩ := Operand.read_integers
  refine ⟨?_, ?_, hmany [['1'], ['2'], ['3'], ['4'], []] (by decide)⟩
  · exact (hintegers IntegerComponent.assorted (by decide) (by decide)).1 (by decide)
  · exact (hintegers (IntegerComponent.assorted ++ [.large]) (by decide) (by decide)).2 (by decide)

end RegisterScript
