import RegisterScript.Operand
import RegisterScript.Proofs.CharacterClasses

/-!
# Characters and cells, written and read back

Two things are written down one at a time and have to come back as they were, whatever stands
behind them.

**Characters as bytes.**  Each character is read from its own bytes (`character?_utf8EncodeChar`),
so a text is read back whole: `Utf8.decode_encode`.

**Cells as digits.**  The hexadecimal digits of a number read to that number
(`readDigits_hexDigits`), and a cell reads back from its text (`readCell_renderCell`).  An operand
is read number by number between its commas (`Operand.read_intercalate_iff`), so it reads back from
its cells (`Operand.read_render`).
-/

namespace RegisterScript

/-! ## Characters as bytes -/

namespace Utf8

variable {b b₁ b₂ b₃ : UInt8}

lemma toNat_ofNat_byte {n : Nat} (h : n < 256) : (UInt8.ofNat n).toNat = n :=
  UInt8.toNat_ofNat_of_lt' h

lemma isContinuation_iff : isContinuation b = true ↔ 0x80 ≤ b.toNat ∧ b.toNat ≤ 0xBF := by
  simp [isContinuation, UInt8.le_iff_toNat_le]

lemma character?_two (hlow : 0xC2 ≤ b.toNat) (hhigh : b.toNat ≤ 0xDF)
    (h₁ : isContinuation b₁ = true) (rest : Bytes) :
    character? b (b₁ :: rest) = some (Char.ofNat ((b.toNat - 0xC0) * 64 + payload b₁), 1) := by
  have hnot : ¬ b.toNat < 0x80 := by omega
  simp [character?, UInt8.lt_iff_toNat_lt, UInt8.le_iff_toNat_le, hnot, hlow, hhigh, h₁]

lemma character?_three (hlow : 0xE0 ≤ b.toNat) (hhigh : b.toNat ≤ 0xEF)
    (h₁ : isContinuation b₁ = true) (hshort : b.toNat = 0xE0 → 0xA0 ≤ b₁.toNat)
    (hsurrogate : b.toNat = 0xED → b₁.toNat ≤ 0x9F) (h₂ : isContinuation b₂ = true)
    (rest : Bytes) :
    character? b (b₁ :: b₂ :: rest)
      = some (Char.ofNat (((b.toNat - 0xE0) * 64 + payload b₁) * 64 + payload b₂), 2) := by
  have hnot : ¬ b.toNat < 0x80 := by omega
  have hnot' : ¬ b.toNat ≤ 0xDF := by omega
  have hsecond : secondOfThree b b₁ = true := by
    rw [isContinuation_iff] at h₁
    simp only [secondOfThree, ← UInt8.toNat_inj, Bool.and_eq_true, decide_eq_true_eq,
      UInt8.le_iff_toNat_le]
    constructor <;> split_ifs with hb <;> simp_all
  simp [character?, UInt8.lt_iff_toNat_lt, UInt8.le_iff_toNat_le, hnot, hnot', hlow, hhigh,
    hsecond, h₂]

lemma character?_four (hlow : 0xF0 ≤ b.toNat) (hhigh : b.toNat ≤ 0xF4)
    (h₁ : isContinuation b₁ = true) (hshort : b.toNat = 0xF0 → 0x90 ≤ b₁.toNat)
    (hpast : b.toNat = 0xF4 → b₁.toNat ≤ 0x8F) (h₂ : isContinuation b₂ = true)
    (h₃ : isContinuation b₃ = true) (rest : Bytes) :
    character? b (b₁ :: b₂ :: b₃ :: rest)
      = some (Char.ofNat
          ((((b.toNat - 0xF0) * 64 + payload b₁) * 64 + payload b₂) * 64 + payload b₃), 3) := by
  have hnot : ¬ b.toNat < 0x80 := by omega
  have hnot' : ¬ b.toNat ≤ 0xDF := by omega
  have hnot'' : ¬ b.toNat ≤ 0xEF := by omega
  have hsecond : secondOfFour b b₁ = true := by
    rw [isContinuation_iff] at h₁
    simp only [secondOfFour, ← UInt8.toNat_inj, Bool.and_eq_true, decide_eq_true_eq,
      UInt8.le_iff_toNat_le]
    constructor <;> split_ifs with hb <;> simp_all
  simp [character?, UInt8.lt_iff_toNat_lt, UInt8.le_iff_toNat_le, hnot, hnot', hnot'', hlow, hhigh,
    hsecond, h₂, h₃]

lemma isContinuation_ofNat (n : Nat) : isContinuation (UInt8.ofNat (n % 0x40 + 0x80)) = true := by
  rw [isContinuation_iff, toNat_ofNat_byte (by omega)]
  omega

lemma payload_ofNat (n : Nat) : payload (UInt8.ofNat (n % 0x40 + 0x80)) = n % 0x40 := by
  have hb : (UInt8.ofNat (n % 0x40 + 0x80)).toNat = n % 0x40 + 0x80 :=
    toNat_ofNat_byte (by omega)
  calc payload (UInt8.ofNat (n % 0x40 + 0x80))
      = n % 0x40 + 0x80 - 0x80 := congrArg (· - 0x80) hb
    _ = n % 0x40 := Nat.add_sub_cancel _ _

/-- A character is read from its own bytes. -/
lemma character?_utf8EncodeChar (c : Char) (rest : Bytes) :
    ∃ b bytes, String.utf8EncodeChar c = b :: bytes ∧
      character? b (bytes ++ rest) = some (c, bytes.length) := by
  have hvalid : c.val.toNat < 0xD800 ∨ 0xDFFF < c.val.toNat ∧ c.val.toNat < 0x110000 := c.valid
  have hc : Char.ofNat c.val.toNat = c := Char.ofNat_toNat c
  rw [String.utf8EncodeChar]
  set n := c.val.toNat
  split_ifs with h₁ h₂ h₃
  · refine ⟨_, _, rfl, ?_⟩
    have hb : (UInt8.ofNat n).toNat = n := toNat_ofNat_byte (by omega)
    have hlt : n < 0x80 := by omega
    simp [character?, UInt8.lt_iff_toNat_lt, hb, hlt, hc]
  · refine ⟨_, _, rfl, ?_⟩
    have hb : (UInt8.ofNat (n / 64 % 0x20 + 0xC0)).toNat = n / 64 + 0xC0 := by
      rw [toNat_ofNat_byte (by omega)]
      omega
    rw [List.singleton_append, character?_two (by omega) (by omega) (isContinuation_ofNat n), hb,
      payload_ofNat]
    have hn : (n / 64 + 0xC0 - 0xC0) * 64 + n % 0x40 = n := by omega
    rw [hn, hc]
    rfl
  · refine ⟨_, _, rfl, ?_⟩
    have hb : (UInt8.ofNat (n / 4096 % 0x10 + 0xE0)).toNat = n / 4096 + 0xE0 := by
      rw [toNat_ofNat_byte (by omega)]
      omega
    have hb₁ : (UInt8.ofNat (n / 64 % 0x40 + 0x80)).toNat = n / 64 % 0x40 + 0x80 :=
      toNat_ofNat_byte (by omega)
    rw [List.cons_append, List.singleton_append,
      character?_three (by omega) (by omega) (isContinuation_ofNat _) (by omega) (by omega)
        (isContinuation_ofNat n), hb, payload_ofNat, payload_ofNat]
    have hn : ((n / 4096 + 0xE0 - 0xE0) * 64 + n / 64 % 0x40) * 64 + n % 0x40 = n := by omega
    rw [hn, hc]
    rfl
  · refine ⟨_, _, rfl, ?_⟩
    have hb : (UInt8.ofNat (n / 262144 % 0x08 + 0xF0)).toNat = n / 262144 + 0xF0 := by
      rw [toNat_ofNat_byte (by omega)]
      omega
    have hb₁ : (UInt8.ofNat (n / 4096 % 0x40 + 0x80)).toNat = n / 4096 % 0x40 + 0x80 :=
      toNat_ofNat_byte (by omega)
    rw [List.cons_append, List.cons_append, List.singleton_append,
      character?_four (by omega) (by omega) (isContinuation_ofNat _) (by omega) (by omega)
        (isContinuation_ofNat _) (isContinuation_ofNat n), hb, payload_ofNat, payload_ofNat,
      payload_ofNat]
    have hn : (((n / 262144 + 0xF0 - 0xF0) * 64 + n / 4096 % 0x40) * 64 + n / 64 % 0x40) * 64
        + n % 0x40 = n := by omega
    rw [hn, hc]
    rfl

lemma decodeFrom_flatMap (read cs : List Char) :
    decodeFrom read (cs.flatMap String.utf8EncodeChar) = read.reverse ++ cs := by
  induction cs generalizing read with
  | nil => simp [decodeFrom]
  | cons c cs ih =>
      obtain ⟨b, bytes, hbytes, hchar⟩ :=
        character?_utf8EncodeChar c (cs.flatMap String.utf8EncodeChar)
      rw [List.flatMap_cons, hbytes, List.cons_append, decodeFrom, hchar]
      simp [ih]

/-- **A text is read back from its bytes.** -/
theorem decode_encode (text : String) : decode (encode text) = text.toList :=
  decodeFrom_flatMap [] text.toList

end Utf8

/-! ## Numbers as digits -/

lemma isHexDigit_digitChar {d : Nat} (h : d < 16) : isHexDigit d.digitChar = true := by
  interval_cases d <;> decide

lemma digitValue?_digitChar {d : Nat} (h : d < 16) :
    Numeral.digitValue? 16 d.digitChar = some d := by
  interval_cases d <;> decide

lemma isHexDigit_of_mem_hexDigits {n : Nat} {c : Char} (h : c ∈ Text.hexDigits n) :
    isHexDigit c = true := by
  induction n using Nat.strong_induction_on with
  | _ n ih =>
      rw [Text.hexDigits, Nat.toDigits_eq_if (by decide)] at h
      split_ifs at h with hn
      · rw [List.mem_singleton.mp h]
        exact isHexDigit_digitChar hn
      · rcases List.mem_append.mp h with h | h
        · exact ih (n / 16) (by omega) h
        · rw [List.mem_singleton.mp h]
          exact isHexDigit_digitChar (Nat.mod_lt n (by decide))

lemma digitChar_inj {d d' : Nat} (hd : d < 16) (hd' : d' < 16) (h : d.digitChar = d'.digitChar) :
    d = d' := by
  have hvalue := digitValue?_digitChar hd
  rw [h, digitValue?_digitChar hd'] at hvalue
  exact (Option.some.inj hvalue).symm

/-- Different numbers have different digits. -/
lemma hexDigits_injective : Function.Injective Text.hexDigits := by
  intro n
  induction n using Nat.strong_induction_on with
  | _ n ih =>
      intro m h
      have hdigits : ∀ k, Text.hexDigits k = if k < 16 then [k.digitChar]
          else Text.hexDigits (k / 16) ++ [(k % 16).digitChar] :=
        fun _ => Nat.toDigits_eq_if (by decide)
      have hpos : ∀ k, 0 < (Text.hexDigits k).length := fun _ => Nat.length_toDigits_pos
      rw [hdigits n, hdigits m] at h
      split_ifs at h with hn hm hm
      · exact digitChar_inj hn hm (List.singleton_inj.mp h)
      · have hlength := congrArg List.length h
        have hm := hpos (m / 16)
        simp only [List.length_append, List.length_singleton] at hlength
        omega
      · have hlength := congrArg List.length h
        have hn := hpos (n / 16)
        simp only [List.length_append, List.length_singleton] at hlength
        omega
      · obtain ⟨hhigh, hlow⟩ := List.append_inj' h rfl
        have hdiv : n / 16 = m / 16 := ih (n / 16) (by omega) hhigh
        have hmod : n % 16 = m % 16 := digitChar_inj (Nat.mod_lt n (by decide))
          (Nat.mod_lt m (by decide)) (List.singleton_inj.mp hlow)
        omega

namespace Numeral

lemma readDigits_append {base n m : Nat} {cs : List Char} (h : readDigits base n cs = .ok m)
    (cs' : List Char) : readDigits base n (cs ++ cs') = readDigits base m cs' := by
  induction cs generalizing n with
  | nil =>
      cases h
      rfl
  | cons c cs ih =>
      rw [readDigits] at h
      rw [List.cons_append, readDigits]
      split at h
      · cases h
      · rename_i d hd
        split_ifs at h with hlt
        simp only [hlt, if_true]
        exact ih h

/-- The hexadecimal digits of a number read to that number. -/
lemma readDigits_hexDigits {n : Nat} (h : n < cellValues) :
    readDigits 16 0 (Text.hexDigits n) = .ok n := by
  induction n using Nat.strong_induction_on with
  | _ n ih =>
      rw [Text.hexDigits, Nat.toDigits_eq_if (by decide)]
      split_ifs with hn
      · simp [readDigits, digitValue?_digitChar hn, h]
      · have hdiv : readDigits 16 0 (Nat.toDigits 16 (n / 16)) = .ok (n / 16) :=
          ih (n / 16) (by omega) (by omega)
        have hvalue : n / 16 * 16 + n % 16 = n := by omega
        rw [readDigits_append hdiv, readDigits, digitValue?_digitChar (Nat.mod_lt n (by decide))]
        simp [hvalue, h, readDigits]

lemma readUnsigned_hexDigits {n : Nat} (h : n < cellValues) :
    readUnsigned 16 (Text.hexDigits n) = .ok n := by
  have hread := readDigits_hexDigits h
  cases hdigits : Text.hexDigits n with
  | nil => exact absurd hdigits Nat.toDigits_ne_nil
  | cons d digits => rwa [hdigits] at hread

end Numeral

/-! ## Cells -/

@[simp] lemma toList_renderCell (c : Cell) :
    (renderCell c).toList = '0' :: 'x' :: Text.hexDigits c.toNat := by
  simp [renderCell, Text.hex]

lemma toList_renderCells (cells : List Cell) :
    (renderCells cells).toList = [','].intercalate (cells.map fun c => (renderCell c).toList) := by
  simp [renderCells, String.toList_intercalate, Function.comp_def]

lemma isBlank_of_isHexDigit {c : Char} (h : isHexDigit c = true) : Text.isBlank c = false := by
  have hcode := (isHexDigit_iff c).mp h
  exact isBlank_eq_false_of_code (by omega) (by omega)

lemma not_isBlank_of_mem_renderCell {c : Cell} {x : Char} (h : x ∈ (renderCell c).toList) :
    Text.isBlank x = false := by
  rw [toList_renderCell, List.mem_cons, List.mem_cons] at h
  rcases h with rfl | rfl | h
  · decide
  · decide
  · exact isBlank_of_isHexDigit (isHexDigit_of_mem_hexDigits h)

lemma dropWhile_eq_self {p : Char → Bool} {cs : List Char} (h : ∀ c ∈ cs, p c = false) :
    cs.dropWhile p = cs := by
  cases cs with
  | nil => rfl
  | cons c cs => rw [List.dropWhile_cons_of_neg (by simp [h c List.mem_cons_self])]

lemma trim_eq_self {cs : List Char} (h : ∀ c ∈ cs, Text.isBlank c = false) :
    Text.trim cs = cs := by
  have hreverse : ∀ c ∈ cs.reverse, Text.isBlank c = false := fun c hc =>
    h c (List.mem_reverse.mp hc)
  rw [Text.trim, dropWhile_eq_self h, dropWhile_eq_self hreverse,
    List.reverse_reverse]

/-- A cell reads back from its text. -/
lemma readCell_renderCell (c : Cell) : readCell (renderCell c).toList = .ok c := by
  have htrim := trim_eq_self fun x (hx : x ∈ (renderCell c).toList) =>
    not_isBlank_of_mem_renderCell hx
  have hread := Numeral.readUnsigned_hexDigits (n := c.toNat) c.toNat_lt
  rw [readCell, htrim, toList_renderCell]
  cases hdigits : Text.hexDigits c.toNat with
  | nil => exact absurd hdigits Nat.toDigits_ne_nil
  | cons d digits =>
      rw [hdigits] at hread
      simp [hread, componentResult, Except.map]

/-! ## Operands -/

lemma comma_not_mem_renderCell (c : Cell) : ',' ∉ (renderCell c).toList := by
  rw [toList_renderCell]
  intro h
  rcases List.mem_cons.mp h with h | h
  · exact absurd h (by decide)
  · rcases List.mem_cons.mp h with h | h
    · exact absurd h (by decide)
    · exact absurd (isHexDigit_of_mem_hexDigits h) (by decide)

lemma split_of_not_mem {separator : Char} {cs : List Char} (h : separator ∉ cs) :
    Text.split separator cs = [cs] := by
  induction cs with
  | nil => rfl
  | cons c cs ih =>
      rw [List.mem_cons, not_or] at h
      rw [Text.split, if_neg (Ne.symm h.1), ih h.2]

lemma split_append {separator : Char} {cs : List Char} (h : separator ∉ cs) (rest : List Char) :
    Text.split separator (cs ++ separator :: rest) = cs :: Text.split separator rest := by
  induction cs with
  | nil => simp [Text.split]
  | cons c cs ih =>
      rw [List.mem_cons, not_or] at h
      rw [List.cons_append, Text.split, if_neg (Ne.symm h.1), ih h.2]

/-- Splitting undoes joining. -/
lemma split_intercalate {separator : Char} {pieces : List (List Char)} (hne : pieces ≠ [])
    (h : ∀ piece ∈ pieces, separator ∉ piece) :
    Text.split separator ([separator].intercalate pieces) = pieces := by
  induction pieces with
  | nil => exact absurd rfl hne
  | cons piece pieces ih =>
      cases pieces with
      | nil => simpa using split_of_not_mem (h piece (by simp))
      | cons next pieces =>
          rw [List.intercalate_cons_cons, List.append_assoc, List.singleton_append,
            split_append (h piece (by simp)),
            ih (List.cons_ne_nil _ _) fun p hp => h p (List.mem_cons_of_mem _ hp)]

lemma count_intercalate {separator : Char} {pieces : List (List Char)} (hne : pieces ≠ [])
    (h : ∀ piece ∈ pieces, separator ∉ piece) :
    ([separator].intercalate pieces).count separator + 1 = pieces.length := by
  induction pieces with
  | nil => exact absurd rfl hne
  | cons piece pieces ih =>
      have hpiece : piece.count separator = 0 := List.count_eq_zero_of_not_mem (h piece (by simp))
      cases pieces with
      | nil => simp [hpiece]
      | cons next pieces =>
          have hih := ih (List.cons_ne_nil _ _) fun p hp => h p (List.mem_cons_of_mem _ hp)
          rw [List.intercalate_cons_cons, List.count_append, List.count_append, hpiece]
          simp only [List.count_singleton_self, List.length_cons] at hih ⊢
          omega

lemma mapM_readCell_eq_ok_iff {pieces : List (List Char)} {cells : List Cell} :
    pieces.mapM readCell = .ok cells ↔
      List.Forall₂ (fun piece c => readCell piece = .ok c) pieces cells := by
  induction pieces generalizing cells with
  | nil => simp [pure, Except.pure, eq_comm]
  | cons piece pieces ih =>
      rw [List.mapM_cons, List.forall₂_cons_left_iff]
      cases hpiece : readCell piece with
      | error e => simp [bind, Except.bind]
      | ok c =>
          cases hpieces : pieces.mapM readCell with
          | error e =>
              simp only [hpieces, reduceCtorEq, false_iff] at ih
              simp [bind, Except.bind, ih]
          | ok cs =>
              simp only [hpieces, Except.ok.injEq] at ih
              simpa [bind, Except.bind, pure, Except.pure, ← ih] using eq_comm

lemma Operand.ofCells?_cells (v : Operand) : Operand.ofCells? v.cells = some v := by
  cases v <;> rfl

lemma Operand.ofCells?_eq_some_iff{cells : List Cell} {v : Operand} :
    Operand.ofCells? cells = some v ↔ cells = v.cells := by
  constructor
  · intro h
    rw [Operand.ofCells?.eq_def] at h
    split at h <;> cases h <;> rfl
  · rintro rfl
    exact Operand.ofCells?_cells v

/-- **An operand is read number by number**: the text between the commas gives its cells. -/
theorem Operand.read_intercalate_iff {pieces : List (List Char)} (hne : pieces ≠ [])
    (hcomma : ∀ piece ∈ pieces, ',' ∉ piece) {v : Operand} :
    Operand.read ([','].intercalate pieces) = .ok v ↔
      List.Forall₂ (fun piece c => readCell piece = .ok c) pieces v.cells := by
  have hcount := count_intercalate hne hcomma
  have hvector : readVector pieces.length ([','].intercalate pieces) = .ok v ↔
      List.Forall₂ (fun piece c => readCell piece = .ok c) pieces v.cells := by
    rw [readVector, readCells, split_intercalate hne hcomma, if_pos rfl, ← mapM_readCell_eq_ok_iff]
    cases pieces.mapM readCell with
    | error e => simp [bind, Except.bind]
    | ok cells =>
        rw [Except.ok.injEq, ← ofCells?_eq_some_iff]
        cases hv : ofCells? cells <;> simp [bind, Except.bind, hv]
  rw [Operand.read, hcount]
  split_ifs with hone hfour
  · obtain ⟨piece, rfl⟩ := List.length_eq_one_iff.mp hone
    rw [List.intercalate_singleton]
    cases hpiece : readCell piece <;> cases v <;> simp [cells, hpiece]
  · exact hvector
  · -- No operand has more than four cells.
    refine iff_of_false (by simp) fun h => hfour ?_
    rw [h.length_eq]
    cases v <;> simp [cells]

/-- **An operand reads back from its text.** -/
theorem Operand.read_render (v : Operand) : Operand.read v.render.toList = .ok v := by
  have hne : v.cells.map (fun c => (renderCell c).toList) ≠ [] := by cases v <;> simp [cells]
  have hcomma : ∀ piece ∈ v.cells.map (fun c => (renderCell c).toList), ',' ∉ piece := by
    intro piece hpiece
    obtain ⟨c, -, rfl⟩ := List.mem_map.mp hpiece
    exact comma_not_mem_renderCell c
  rw [render, toList_renderCells, read_intercalate_iff hne hcomma, List.forall₂_map_left_iff]
  exact List.forall₂_same.mpr fun c _ => readCell_renderCell c

end RegisterScript
