import Mathlib.Tactic
import RegisterScript.Token.Scanner

/-!
# Which classes of characters are apart

The scanner decides by classes of characters: white space, letters, decimal digits.  That a
character is in one of them has to rule out the others, over all of Unicode, and the classes are
tables of ranges.

**Tables.**  Comparing every range of one table with every range of another takes too long to be
evaluated.  The tables are in increasing order (`Increasing`), so it is enough to walk through both
of them side by side (`apart`): `covers_eq_false_of_apart`.

**Classes.**  Below U+0080 the tables are not used, and a class is an interval or two
(`isAlpha_iff`, `isDigit_iff`, `isHexDigit_iff`).
-/

namespace RegisterScript

/-! ## Tables -/

namespace Text

/-- The first and the last code points of the ranges of a table, one behind the other. -/
def bounds (table : List CodeRange) : List Nat := table.flatMap fun range => [range.1, range.2]

/-- The ranges of the table are in increasing order. -/
def Increasing (table : List CodeRange) : Prop := (bounds table).IsChain (· ≤ ·)

instance : DecidablePred Increasing := fun table =>
  inferInstanceAs (Decidable ((bounds table).IsChain (· ≤ ·)))

/-- Walks through two tables, leaving behind whichever range ends before the other starts.  Where
two ranges meet there is nothing to leave behind. -/
def apart : (steps : Nat) → List CodeRange → List CodeRange → Bool
  | _, [], _ => true
  | _, _, [] => true
  | 0, _ :: _, _ :: _ => false
  | steps + 1, range :: table, range' :: table' =>
    if range.2 < range'.1 then apart steps table (range' :: table')
    else range'.2 < range.1 && apart steps (range :: table) table'

lemma Increasing.of_cons {range : CodeRange} {table : List CodeRange}
    (h : Increasing (range :: table)) :
    Increasing table ∧ ∀ later ∈ table, range.1 ≤ later.1 := by
  have hpairs : (range.1 :: range.2 :: bounds table).Pairwise (· ≤ ·) :=
    List.isChain_iff_pairwise.mp h
  simp only [List.pairwise_cons] at hpairs
  obtain ⟨hfirst, -, htable⟩ := hpairs
  refine ⟨List.isChain_iff_pairwise.mpr htable, fun later hlater => ?_⟩
  have hmem : later.1 ∈ bounds table := List.mem_flatMap.mpr ⟨later, hlater, by simp⟩
  exact hfirst later.1 (List.mem_cons_of_mem _ hmem)

/-- **The walk meets every pair of ranges**, or leaves one behind that everything to come is
beyond. -/
lemma lt_or_lt_of_apart {steps : Nat} {table table' : List CodeRange} (h : Increasing table)
    (h' : Increasing table') (hapart : apart steps table table' = true) :
    ∀ range ∈ table, ∀ range' ∈ table', range.2 < range'.1 ∨ range'.2 < range.1 := by
  fun_induction apart steps table table' with
  | case1 => simp
  | case2 => simp
  | case3 => cases hapart
  | case4 steps range table range' table' hlt ih =>
      obtain ⟨htable, -⟩ := h.of_cons
      obtain ⟨-, hlater'⟩ := h'.of_cons
      refine List.forall_mem_cons.mpr ⟨?_, ih htable h' hapart⟩
      refine List.forall_mem_cons.mpr ⟨.inl hlt, fun later hmem => .inl ?_⟩
      exact hlt.trans_le (hlater' later hmem)
  | case5 steps range table range' table' _ ih =>
      simp only [Bool.and_eq_true, decide_eq_true_eq] at hapart
      obtain ⟨hlt, hapart⟩ := hapart
      obtain ⟨-, hlater⟩ := h.of_cons
      obtain ⟨htable', -⟩ := h'.of_cons
      have hrest := ih h htable' hapart
      intro first hfirst
      refine List.forall_mem_cons.mpr ⟨.inr ?_, hrest first hfirst⟩
      rcases List.mem_cons.mp hfirst with rfl | hmem
      · exact hlt
      · exact hlt.trans_le (hlater first hmem)

/-- **Tables that are apart have no character in common.** -/
lemma covers_eq_false_of_apart {steps : Nat} {table table' : List CodeRange} (h : Increasing table)
    (h' : Increasing table') (hapart : apart steps table table' = true) {c : Char}
    (hc : covers table c = true) : covers table' c = false := by
  obtain ⟨range, hmem, hin⟩ := List.any_eq_true.mp hc
  refine List.any_eq_false.mpr fun range' hmem' hin' => ?_
  have hbeyond := lt_or_lt_of_apart h h' hapart range hmem range' hmem'
  simp only [Bool.and_eq_true, decide_eq_true_eq] at hin hin'
  omega

lemma increasing_blankRanges : Increasing blankRanges := by decide +kernel

lemma increasing_digitRanges : Increasing digitRanges := by decide +kernel

lemma increasing_letterRanges : Increasing letterRanges := by decide +kernel

end Text

/-! ## Classes -/

lemma isAlpha_iff (c : Char) :
    c.isAlpha = true ↔
      (0x41 ≤ c.toNat ∧ c.toNat ≤ 0x5A) ∨ (0x61 ≤ c.toNat ∧ c.toNat ≤ 0x7A) := by
  change (decide (c.val ≥ 'A'.val ∧ c.val ≤ 'Z'.val)
    || (decide (c.val ≥ 'a'.val) && decide (c.val ≤ 'z'.val))) = true ↔ _
  simp only [Bool.or_eq_true, Bool.and_eq_true, decide_eq_true_eq, ge_iff_le,
    UInt32.le_iff_toNat_le]
  rfl

lemma isDigit_iff (c : Char) : c.isDigit = true ↔ 0x30 ≤ c.toNat ∧ c.toNat ≤ 0x39 := by
  change (decide (c.val ≥ '0'.val) && decide (c.val ≤ '9'.val)) = true ↔ _
  simp only [Bool.and_eq_true, decide_eq_true_eq, ge_iff_le, UInt32.le_iff_toNat_le]
  rfl

lemma isHexDigit_iff (c : Char) :
    isHexDigit c = true ↔ (0x30 ≤ c.toNat ∧ c.toNat ≤ 0x39) ∨
      (0x61 ≤ c.toNat ∧ c.toNat ≤ 0x66) ∨ (0x41 ≤ c.toNat ∧ c.toNat ≤ 0x46) := by
  simp only [isHexDigit, Bool.or_eq_true, Bool.and_eq_true, decide_eq_true_eq, Char.le_def,
    UInt32.le_iff_toNat_le, or_assoc]
  rfl

/-- Below U+0080 there are no blanks between the first digit and the last letter. -/
lemma isBlank_eq_false_of_code {c : Char} (hlow : 0x30 ≤ c.toNat) (hhigh : c.toNat ≤ 0x7A) :
    Text.isBlank c = false := by
  have hoff : ∀ range ∈ Text.blankRanges, range.2 < 0x30 ∨ 0x7A < range.1 := by decide
  refine List.any_eq_false.mpr fun range hmem hin => ?_
  have hoff := hoff range hmem
  simp only [Bool.and_eq_true, decide_eq_true_eq] at hin
  omega

lemma isBlank_eq_false_of_isLetter {c : Char} (h : Text.isLetter c = true) :
    Text.isBlank c = false := by
  rw [Text.isLetter] at h
  split_ifs at h
  · have hcode := (isAlpha_iff c).mp h
    exact isBlank_eq_false_of_code (by omega) (by omega)
  · have hapart : Text.apart 1000 Text.letterRanges Text.blankRanges = true := by decide +kernel
    exact Text.covers_eq_false_of_apart Text.increasing_letterRanges Text.increasing_blankRanges
      hapart h

lemma isBlank_eq_false_of_isDecimalDigit {c : Char} (h : Text.isDecimalDigit c = true) :
    Text.isBlank c = false := by
  rw [Text.isDecimalDigit] at h
  split_ifs at h
  · have hcode := (isDigit_iff c).mp h
    exact isBlank_eq_false_of_code (by omega) (by omega)
  · have hapart : Text.apart 1000 Text.digitRanges Text.blankRanges = true := by decide +kernel
    exact Text.covers_eq_false_of_apart Text.increasing_digitRanges Text.increasing_blankRanges
      hapart h

lemma isLetter_eq_false_of_isDecimalDigit {c : Char} (h : Text.isDecimalDigit c = true) :
    Text.isLetter c = false := by
  rw [Text.isDecimalDigit] at h
  rw [Text.isLetter]
  split_ifs at h ⊢
  · have hcode := (isDigit_iff c).mp h
    rw [Bool.eq_false_iff, ne_eq, isAlpha_iff]
    omega
  · have hapart : Text.apart 1000 Text.digitRanges Text.letterRanges = true := by decide +kernel
    exact Text.covers_eq_false_of_apart Text.increasing_digitRanges Text.increasing_letterRanges
      hapart h

end RegisterScript
