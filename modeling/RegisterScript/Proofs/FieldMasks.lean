import RegisterScript.Proofs.FieldWidths

/-!
# What is left of a word in its fields

A write that goes into a word loses what its fields cannot hold.  Here the way starts from the other
end, with a word that comes from outside: reading it keeps the bits of the fields, and the bits in
the gaps are gone.

**Layouts.**  `Layout.pack_unpack`: a word that is read and written again has been masked.  Nothing
is read from the gaps, so the masked word reads the same (`Layout.unpack_and_mask`).

**Writes.**  `Register.fieldMask` has the mask of each register as a number.  A write is read from a
word exactly if its own word is the masked one and it passes the range check
(`Register.decode_eq_ok_iff`), which leaves the words from which nothing is read
(`Register.decode_eq_error_iff`).

**Tags.**  `Tag.pack_unpack`: of the two words of a tag only the thirty bits in the middle of the
first one are lost, so those are the only ones in which two spellings of a tag can differ.
-/

namespace RegisterScript

/-! ## Layouts -/

namespace Layout

/-- The common bits of two numbers are those below a place and those from there on. -/
lemma and_eq_low_add_high (n m w : Nat) :
    n &&& m = (n % capacity w &&& m % capacity w)
      + capacity w * (n / capacity w &&& m / capacity w) := by
  have hsplit := Nat.mod_add_div (n &&& m) (2 ^ w)
  rw [Nat.and_mod_two_pow, Nat.and_div_two_pow] at hsplit
  exact hsplit.symm

/-- **A word that is read and written again** keeps the bits of its fields. -/
theorem pack_unpack (slots : List Slot) (n : Nat) :
    pack slots (unpack slots n) = n &&& mask slots := by
  induction slots generalizing n with
  | nil => simp [pack, mask]
  | cons slot slots ih =>
      cases slot with
      | field w =>
          have hpos := capacity_pos w
          have hlow : (capacity w - 1 + capacity w * mask slots) % capacity w = capacity w - 1 := by
            rw [Nat.add_mul_mod_self_left, Nat.mod_eq_of_lt (by omega)]
          have hhigh : (capacity w - 1 + capacity w * mask slots) / capacity w = mask slots := by
            rw [Nat.add_mul_div_left _ _ hpos, Nat.div_eq_of_lt (by omega), Nat.zero_add]
          have hfield : n % capacity w &&& (capacity w - 1) = n % capacity w % capacity w :=
            Nat.and_two_pow_sub_one_eq_mod (n % capacity w) w
          rw [unpack, pack, mask, ih, and_eq_low_add_high n _ w, hlow, hhigh, hfield]
      | gap w =>
          rw [unpack, pack, mask, ih, and_eq_low_add_high n _ w, Nat.mul_mod_right,
            Nat.mul_div_cancel_left _ (capacity_pos w), Nat.and_zero, Nat.zero_add]

/-- What is read from a field fits it. -/
lemma reduced_unpack (slots : List Slot) (n : Nat) :
    reduced slots (unpack slots n) = unpack slots n := by
  induction slots generalizing n with
  | nil => rfl
  | cons slot slots ih =>
      cases slot with
      | field w => rw [unpack, reduced, ih, Nat.mod_mod]
      | gap w => rw [unpack, reduced, ih]

lemma unpack_and_mask (slots : List Slot) (n : Nat) :
    unpack slots (n &&& mask slots) = unpack slots n := by
  rw [← pack_unpack, unpack_pack, reduced_unpack]

/-- A field of one bit is a flag. -/
lemma bit_mod_eq_one (n : Nat) : bit (n % capacity 1 = 1) = n % capacity 1 := by
  have hlt : n % capacity 1 < 2 := Nat.mod_lt n (capacity_pos 1)
  rw [bit]
  split_ifs with h
  · simpa [eq_comm] using h
  · simp only [decide_eq_true_eq] at h
    omega

lemma mod_capacity_lt {width limit : Nat} (h : width ≤ limit) (n : Nat) :
    n % capacity width < 2 ^ limit :=
  lt_of_lt_of_le (Nat.mod_lt n (capacity_pos width)) (Nat.pow_le_pow_right (by decide) h)

end Layout

lemma toNat_ofNat_cell {width : Nat} (h : width ≤ 32) (n : Nat) :
    (UInt32.ofNat (n % Layout.capacity width)).toNat = n % Layout.capacity width :=
  UInt32.toNat_ofNat_of_lt' (Layout.mod_capacity_lt h n)

lemma toNat_ofNat_code {width : Nat} (h : width ≤ 8) (n : Nat) :
    (UInt8.ofNat (n % Layout.capacity width)).toNat = n % Layout.capacity width :=
  UInt8.toNat_ofNat_of_lt' (Layout.mod_capacity_lt h n)

lemma toNat_ofNat_count {width : Nat} (h : width ≤ 16) (n : Nat) :
    (UInt16.ofNat (n % Layout.capacity width)).toNat = n % Layout.capacity width :=
  UInt16.toNat_ofNat_of_lt' (Layout.mod_capacity_lt h n)

/-! ## Writes -/

/-- A write passes the range check if its word is read as the same write. -/
lemma Write.checkRange_eq_none_iff_decode {w : Write} :
    w.checkRange = none ↔ w.register.decode w.encode = .ok w := by
  rw [checkRange]
  split
  · rename_i h
    simp [h]
  · rename_i h
    simp [h]

namespace Register

/-- The bits of a word for which a register has fields. -/
def fieldMask : Register → UInt64
  | prim => 0xBF
  | rgbaq => 0xFFFFFFFF
  -- Coordinates are whole: their four fraction bits belong to no field.
  | uv => 0x3FF03FF0
  | xyz2 => 0xFFFFFFFFFFF0FFF0
  | tex0 => 0x1FFFFFFFFF
  | fog => 0xFF00000000000000
  | fogcol => 0xFFFFFF
  | scissor => 0x07FF07FF07FF07FF
  | signal | label => 0xFFFFFFFFFFFFFFFF
  | finish => 0xFFFFFFFF

lemma toNat_fieldMask (r : Register) : r.fieldMask.toNat = Layout.mask r.layout := by
  cases r <;> rfl

lemma unpack_and_fieldMask (r : Register) (word : UInt64) :
    Layout.unpack r.layout (word &&& r.fieldMask).toNat = Layout.unpack r.layout word.toNat := by
  rw [UInt64.toNat_and, toNat_fieldMask, Layout.unpack_and_mask]

/-- The bits outside the fields make no difference to what is read. -/
lemma decode_and_fieldMask (r : Register) (word : UInt64) :
    r.decode (word &&& r.fieldMask) = r.decode word := by
  have hfields := unpack_and_fieldMask r word
  cases r with
  | prim => simp only [decode, Prim.decode, hfields]
  | _ => simp only [decode, hfields]

/-- A write that is read from a word has the fields of the word. -/
lemma fields_of_decode {r : Register} {word : UInt64} {w : Write} (h : r.decode word = .ok w) :
    w.register = r ∧ w.fields = Layout.unpack r.layout word.toNat := by
  -- The bound on a value is that of its field; the library's lemma on `toNat (ofNat n)` would give
  -- the remainder by the size of the type instead.
  cases r with
  | prim =>
      simp only [decode, Prim.decode] at h
      split_ifs at h
      · cases h
      · cases h
        refine ⟨rfl, ?_⟩
        simp [Write.fields, Prim.fields, layout, Layout.unpack, Layout.bit_mod_eq_one,
          toNat_ofNat_code, -UInt8.toNat_ofNat']
  | tex0 =>
      simp only [decode] at h
      split_ifs at h
      cases h
      refine ⟨rfl, ?_⟩
      simp [Write.fields, Tex0.fields, layout, Layout.unpack, Layout.bit_mod_eq_one,
        toNat_ofNat_code, toNat_ofNat_cell, -UInt8.toNat_ofNat', -UInt32.toNat_ofNat']
  | fog =>
      cases h
      refine ⟨rfl, ?_⟩
      simp [Write.fields, Write.cells, layout, Layout.unpack, toNat_ofNat_code,
        -UInt8.toNat_ofNat']
  | _ =>
      cases h
      refine ⟨rfl, ?_⟩
      simp [Write.fields, Write.cells, layout, Layout.unpack, toNat_ofNat_cell,
        -UInt32.toNat_ofNat']

lemma encode_of_decode {r : Register} {word : UInt64} {w : Write} (h : r.decode word = .ok w) :
    w.encode = word &&& r.fieldMask := by
  obtain ⟨hregister, hfields⟩ := fields_of_decode h
  apply UInt64.toNat_inj.mp
  rw [Write.toNat_encode, hregister, hfields, Layout.pack_unpack, UInt64.toNat_and, toNat_fieldMask]

/-- **What is read from a word** is the write to which nothing happens on the way through its own
word, and whose word is the masked one. -/
theorem decode_eq_ok_iff {r : Register} {word : UInt64} {w : Write} :
    r.decode word = .ok w ↔
      w.register = r ∧ w.encode = word &&& w.register.fieldMask ∧ w.checkRange = none := by
  constructor
  · intro h
    obtain ⟨rfl, -⟩ := fields_of_decode h
    have hencode := encode_of_decode h
    refine ⟨rfl, hencode, ?_⟩
    rw [Write.checkRange_eq_none_iff_decode, hencode, decode_and_fieldMask, h]
  · rintro ⟨rfl, hencode, hrange⟩
    rwa [Write.checkRange_eq_none_iff_decode, hencode, decode_and_fieldMask] at hrange

end Register

/-- The bits of a word that hold the topology of a primitive setting. -/
def topologyField (word : UInt64) : UInt64 := word &&& 0x7

/-- The bits of a word that hold the pixel format of a texture setting. -/
def pixelFormatField (word : UInt64) : UInt64 := (word >>> 20) &&& 0x3F

lemma toNat_topologyField (word : UInt64) : (topologyField word).toNat = word.toNat % 8 := by
  rw [topologyField, UInt64.toNat_and]
  exact Nat.and_two_pow_sub_one_eq_mod word.toNat 3

lemma toNat_pixelFormatField (word : UInt64) :
    (pixelFormatField word).toNat = word.toNat / 2 ^ 14 / 2 ^ 6 % 64 := by
  rw [pixelFormatField, UInt64.toNat_and, UInt64.toNat_shiftRight, Nat.shiftRight_eq_div_pow,
    Nat.div_div_eq_div_mul, ← pow_add]
  exact Nat.and_two_pow_sub_one_eq_mod _ 6

namespace Register

/-- **From which words nothing is read.**  Only two registers have codes that mean nothing. -/
theorem decode_eq_error_iff {r : Register} {word : UInt64} {e : DecodeError} :
    r.decode word = .error e ↔
      (r = prim ∧ topologyField word = 7 ∧ e = .invalidTopology) ∨
        (r = tex0 ∧ 2 < pixelFormatField word ∧
          e = .pixelFormat (pixelFormatField word).toNat) := by
  cases r with
  | prim =>
      have hfield : (Layout.unpack prim.layout word.toNat).getD 0 0 = (topologyField word).toNat :=
        (toNat_topologyField word).symm
      have hseven : (topologyField word).toNat = 7 ↔ topologyField word = 7 :=
        UInt64.toNat_inj (b := 7)
      simp only [decode, Prim.decode, hfield, hseven]
      split_ifs with h <;> simp [h, Except.map, eq_comm]
  | tex0 =>
      have hfield : (Layout.unpack tex0.layout word.toNat).getD 2 0
          = (pixelFormatField word).toNat := (toNat_pixelFormatField word).symm
      have hformat : (pixelFormatField word).toNat ≤ PixelFormat.ct16.code.toNat ↔
          ¬ 2 < pixelFormatField word := by
        rw [UInt64.lt_iff_toNat_lt, not_lt]
        rfl
      simp only [decode, hfield, hformat]
      split_ifs with h <;> simp [h, eq_comm]
  | _ => simp [decode]

lemma address_inj {r r' : Register} : r.address = r'.address ↔ r = r' := by
  constructor
  · intro h
    have hsame := ofAddress?_address r
    rw [h, ofAddress?_address] at hsame
    exact (Option.some.inj hsame).symm
  · exact congrArg address

lemma ofAddress?_eq_none_iff {address : UInt8} :
    ofAddress? address = none ↔ ∀ r : Register, r.address ≠ address := by
  constructor
  · rintro h r rfl
    rw [ofAddress?_address] at h
    cases h
  · intro h
    exact List.find?_eq_none.mpr fun r _ => by simpa using h r

end Register

/-- **What is lost of a word that is read.**  A write is read from a word, at an address, exactly if
it goes to that address, passes the range check, and has the word in which the bits outside the
register's fields are cleared; there is no write exactly if no register has the address, the
topology is the one code of three bits that stands for none, or the pixel format is above the last
one. -/
theorem decodeAt_fieldMask (address : UInt8) (word : UInt64) :
    (∀ w, decodeAt address word = .ok w ↔
      w.register.address = address ∧ w.encode = word &&& w.register.fieldMask ∧
        w.checkRange = none) ∧
    ∀ e, decodeAt address word = .error e ↔
      ((∀ r : Register, r.address ≠ address) ∧ e = .unknownAddress address) ∨
        (address = Register.prim.address ∧ topologyField word = 7 ∧ e = .invalidTopology) ∨
        (address = Register.tex0.address ∧ 2 < pixelFormatField word ∧
          e = .pixelFormat (pixelFormatField word).toNat) := by
  by_cases hknown : ∃ r : Register, r.address = address
  · obtain ⟨r, rfl⟩ := hknown
    have hread : decodeAt r.address word = r.decode word := by
      rw [decodeAt, Register.ofAddress?_address]
    have hunknown : ¬ ∀ r' : Register, r'.address ≠ r.address := fun h => h r rfl
    simp only [hread, Register.address_inj, Register.decode_eq_ok_iff,
      Register.decode_eq_error_iff, hunknown, false_and, false_or, implies_true, and_self]
  · have hnone : ∀ r : Register, r.address ≠ address := by simpa using hknown
    have hread : decodeAt address word = .error (.unknownAddress address) := by
      rw [decodeAt, Register.ofAddress?_eq_none_iff.mpr hnone]
    have hprim := (hnone .prim).symm
    have htex0 := (hnone .tex0).symm
    simp [hread, hnone, hprim, htex0, eq_comm]

/-! ## Tags -/

namespace Tag

/-- The thirty bits of a tag's first word that carry nothing, from bit 16 to bit 45. -/
def unusedBits : UInt64 := (((1 : UInt64) <<< 30) - 1) <<< 16

lemma toNat_not_unusedBits : (~~~unusedBits).toNat = Layout.mask layout := rfl

/-- A tag that is read from two words has the fields of the first. -/
lemma fields_unpack (lo hi : UInt64) : (unpack lo hi).fields = Layout.unpack layout lo.toNat := by
  simp [fields, unpack, layout, Layout.unpack, Layout.bit_mod_eq_one, toNat_ofNat_code,
    toNat_ofNat_count, -UInt8.toNat_ofNat', -UInt16.toNat_ofNat']

/-- **Two words that are read and written again.** -/
theorem pack_unpack (lo hi : UInt64) : (unpack lo hi).pack = (lo &&& ~~~unusedBits, hi) := by
  have hlo : UInt64.ofNat (Layout.pack layout (unpack lo hi).fields) = lo &&& ~~~unusedBits := by
    rw [fields_unpack, Layout.pack_unpack, ← toNat_not_unusedBits, ← UInt64.toNat_and,
      UInt64.ofNat_toNat]
  rw [pack, hlo]
  rfl

/-- The unused bits make no difference to the tag. -/
lemma unpack_and_not_unusedBits (lo hi : UInt64) :
    unpack (lo &&& ~~~unusedBits) hi = unpack lo hi := by
  have hfields : Layout.unpack layout (lo &&& ~~~unusedBits).toNat
      = Layout.unpack layout lo.toNat := by
    rw [UInt64.toNat_and, toNat_not_unusedBits, Layout.unpack_and_mask]
  rw [unpack, unpack, hfields]

lemma unpack_eq_unpack_iff {lo hi lo' hi' : UInt64} :
    unpack lo hi = unpack lo' hi' ↔ lo &&& ~~~unusedBits = lo' &&& ~~~unusedBits ∧ hi = hi' := by
  constructor
  · intro h
    have hpack := congrArg pack h
    rw [pack_unpack, pack_unpack] at hpack
    exact Prod.mk.inj hpack
  · rintro ⟨hlo, rfl⟩
    rw [← unpack_and_not_unusedBits lo, hlo, unpack_and_not_unusedBits]

lemma cutCount_eq_self_iff {width : Nat} {count : UInt16} :
    UInt16.ofNat (count.toNat % Layout.capacity width) = count ↔ count.toNat < 2 ^ width := by
  have hlt : count.toNat % Layout.capacity width < 2 ^ 16 :=
    lt_of_le_of_lt (Nat.mod_le _ _) count.toNat_lt
  rw [← UInt16.toNat_inj, UInt16.toNat_ofNat_of_lt' hlt,
    Nat.mod_eq_iff_lt (Layout.capacity_pos width).ne']
  rfl

/-- Nothing is cut off a tag whose counts and codes fit. -/
lemma reduced_eq_self_iff {t : Tag} :
    t.reduced = t ↔
      t.nloop.toNat < 2 ^ 15 ∧ t.prim.toNat < 2 ^ 11 ∧ t.flg.toNat < 2 ^ 2 ∧
        t.nreg.toNat < 2 ^ 4 := by
  obtain ⟨nloop, eop, pre, prim, flg, nreg, regs⟩ := t
  simp only [reduced, mk.injEq, cutCount_eq_self_iff, cutCode_eq_self_iff, true_and, and_true]

/-- **What is lost of a tag, and of its words.**  The words of a tag are read back to the tag with
its loop count, its setting, its data format and its register count reduced to their widths, which
is the tag itself exactly if they fit.  Any two words, read and written again, are left with bits 16
to 45 of the first cleared; so two pairs of words are the same tag exactly if they differ in those
bits only. -/
theorem packing_losses :
    (∀ t : Tag, unpack t.pack.1 t.pack.2 = { t with
      nloop := UInt16.ofNat (t.nloop.toNat % 2 ^ 15)
      prim := UInt16.ofNat (t.prim.toNat % 2 ^ 11)
      flg := UInt8.ofNat (t.flg.toNat % 2 ^ 2)
      nreg := UInt8.ofNat (t.nreg.toNat % 2 ^ 4) }) ∧
    (∀ t : Tag, unpack t.pack.1 t.pack.2 = t ↔
      t.nloop.toNat < 2 ^ 15 ∧ t.prim.toNat < 2 ^ 11 ∧ t.flg.toNat < 2 ^ 2 ∧
        t.nreg.toNat < 2 ^ 4) ∧
    (∀ lo hi : UInt64, (unpack lo hi).pack = (lo &&& ~~~unusedBits, hi)) ∧
    ∀ lo hi lo' hi' : UInt64, unpack lo hi = unpack lo' hi' ↔
      lo &&& ~~~unusedBits = lo' &&& ~~~unusedBits ∧ hi = hi' := by
  refine ⟨unpack_pack, ?_, pack_unpack, fun _ _ _ _ => unpack_eq_unpack_iff⟩
  intro t
  rw [unpack_pack, reduced_eq_self_iff]

end Tag

end RegisterScript
