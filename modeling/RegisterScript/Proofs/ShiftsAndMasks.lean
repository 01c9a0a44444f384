import RegisterScript.Proofs.FieldMasks

/-!
# Words by shifts and masks

Elsewhere a word is described by the slots of its layout, in plain arithmetic.  The same words can
be written down bit by bit, each field masked and shifted to its place, with all masks and places as
numbers.  This is how the format is usually documented, and nothing in it depends on a layout.

* `Write.word` and `Register.read`, the data word of a write and the write in a data word.
* `Tag.firstWord` and `Tag.ofWords`, the same for tags.

The two descriptions agree on all writes and tags and on all words, those that do not fit included
(`Write.encode_eq_word`, `Register.decode_eq_read`, `Tag.pack_eq`, `Tag.unpack_eq_ofWords`), and so
do the small parts of a tag (`Prim.encode_eq_word`, `Tag.descriptor_eq`).  A remainder modulo a
power of two is a mask, a quotient is a shift, and a sum of slots is a union of bits, since no slot
reaches into the next one.
-/

namespace RegisterScript

/-! ## Layouts -/

namespace Layout

/-- A field is masked, and the slots above it are shifted past it. -/
lemma pack_field (w : Nat) (slots : List Slot) (v : Nat) (values : List Nat) :
    pack (.field w :: slots) (v :: values) = v &&& 2 ^ w - 1 ||| pack slots values <<< w := by
  have hlow : v % 2 ^ w < 2 ^ w := Nat.mod_lt v (Nat.two_pow_pos w)
  calc
    pack (.field w :: slots) (v :: values) = v % 2 ^ w + 2 ^ w * pack slots values := rfl
    _ = 2 ^ w * pack slots values ||| v % 2 ^ w := by
      rw [Nat.add_comm, Nat.two_pow_add_eq_or_of_lt hlow]
    _ = v &&& 2 ^ w - 1 ||| pack slots values <<< w := by
      rw [Nat.or_comm, Nat.and_two_pow_sub_one_eq_mod, Nat.shiftLeft_eq, Nat.mul_comm]

lemma pack_gap (w : Nat) (slots : List Slot) (values : List Nat) :
    pack (.gap w :: slots) values = pack slots values <<< w := by
  rw [pack, Nat.shiftLeft_eq, Nat.mul_comm]
  rfl

lemma unpack_field (w : Nat) (slots : List Slot) (n : Nat) :
    unpack (.field w :: slots) n = (n &&& 2 ^ w - 1) :: unpack slots (n >>> w) := by
  rw [unpack, Nat.and_two_pow_sub_one_eq_mod, Nat.shiftRight_eq_div_pow]
  rfl

lemma unpack_gap (w : Nat) (slots : List Slot) (n : Nat) :
    unpack (.gap w :: slots) n = unpack slots (n >>> w) := by
  rw [unpack, Nat.shiftRight_eq_div_pow]
  rfl

end Layout

/-- A flag as a word. -/
def flagWord (flag : Bool) : UInt64 := if flag then 1 else 0

lemma ofNat_bit (flag : Bool) : UInt64.ofNat (Layout.bit flag % 2) = flagWord flag := by
  cases flag <;> rfl

lemma cell_and_all (c : Cell) : c.toUInt64 &&& 0xFFFFFFFF = c.toUInt64 := by
  rw [← UInt64.toNat_inj, UInt64.toNat_and, UInt32.toNat_toUInt64]
  exact (Nat.and_two_pow_sub_one_eq_mod c.toNat 32).trans (Nat.mod_eq_of_lt c.toNat_lt)

lemma byte_and_all (b : UInt8) : b.toUInt64 &&& 0xFF = b.toUInt64 := by
  rw [← UInt64.toNat_inj, UInt64.toNat_and, UInt8.toNat_toUInt64]
  exact (Nat.and_two_pow_sub_one_eq_mod b.toNat 8).trans (Nat.mod_eq_of_lt b.toNat_lt)

/-- A coordinate has four fraction bits, which are zero. -/
lemma coordinate (w : Nat) (mask : UInt32) (hw : w ≤ 28) (hmask : mask.toNat = 2 ^ (w + 4) - 1)
    (c : Cell) :
    (c <<< 4 &&& mask).toUInt64 = (c.toUInt64 &&& UInt64.ofNat (2 ^ w - 1)) <<< 4 := by
  have hdvd : 2 ^ (w + 4) ∣ 2 ^ 32 := pow_dvd_pow 2 (by omega)
  have hcoordinate : (c <<< 4 &&& mask).toNat = (c.toNat &&& 2 ^ w - 1) <<< 4 := by
    rw [UInt32.toNat_and, UInt32.toNat_shiftLeft, hmask, Nat.and_two_pow_sub_one_eq_mod,
      Nat.and_two_pow_sub_one_eq_mod, Nat.mod_mod_of_dvd _ hdvd]
    change c.toNat <<< 4 % 2 ^ (w + 4) = _
    rw [Nat.shiftLeft_eq, Nat.shiftLeft_eq, pow_add, Nat.mul_mod_mul_right]
  rw [← UInt64.ofNat_uInt32ToNat, hcoordinate, UInt64.ofNat_shiftLeft _ _ (by decide),
    UInt64.ofNat_and, UInt64.ofNat_uInt32ToNat]
  rfl

/-! ## Writes as words -/

/-- The word of a primitive setting. -/
def Prim.word (p : Prim) : UInt64 :=
  p.topology.code.toUInt64 &&& (0x7 : UInt64)
    ||| flagWord p.gouraud <<< 3
    ||| flagWord p.texture <<< 4
    ||| flagWord p.fogging <<< 5
    ||| flagWord p.antialiasing <<< 7

/-- The word of a texture setting. -/
def Tex0.word (t : Tex0) : UInt64 :=
  (t.base &&& 0x3FFF).toUInt64
    ||| (t.bufferWidth &&& 0x3F).toUInt64 <<< 14
    ||| (t.pixelFormat.code &&& 0x3F).toUInt64 <<< 20
    ||| (t.widthLog &&& 0xF).toUInt64 <<< 26
    ||| (t.heightLog &&& 0xF).toUInt64 <<< 30
    ||| flagWord t.useAlpha <<< 34
    ||| (t.function.code &&& 0x3).toUInt64 <<< 35

/-- The word of a write. -/
def Write.word : Write → UInt64
  | prim p => p.word
  | rgbaq c =>
    (c.x &&& 0xFF).toUInt64 ||| (c.y &&& 0xFF).toUInt64 <<< 8 ||| (c.z &&& 0xFF).toUInt64 <<< 16
      ||| (c.w &&& 0xFF).toUInt64 <<< 24
  | uv c => (c.x <<< 4 &&& 0x3FFF).toUInt64 ||| (c.y <<< 4 &&& 0x3FFF).toUInt64 <<< 16
  | xyz2 p =>
    (p.x <<< 4 &&& 0xFFFF).toUInt64 ||| (p.y <<< 4 &&& 0xFFFF).toUInt64 <<< 16
      ||| p.z.toUInt64 <<< 32
  | tex0 t => t.word
  | fog value => value.toUInt64 <<< 56
  | fogcol c =>
    (c.x &&& 0xFF).toUInt64 ||| (c.y &&& 0xFF).toUInt64 <<< 8 ||| (c.z &&& 0xFF).toUInt64 <<< 16
  | scissor r =>
    (r.x &&& 0x7FF).toUInt64 ||| (r.y &&& 0x7FF).toUInt64 <<< 16
      ||| (r.z &&& 0x7FF).toUInt64 <<< 32 ||| (r.w &&& 0x7FF).toUInt64 <<< 48
  | signal id mask => id.toUInt64 ||| mask.toUInt64 <<< 32
  | finish value => value.toUInt64
  | label id mask => id.toUInt64 ||| mask.toUInt64 <<< 32

/-- **The word of a write**, by shifts and masks. -/
theorem Write.encode_eq_word (w : Write) : w.encode = w.word := by
  have hshift (v : UInt64) : v <<< 4 <<< 16 = v <<< 20 :=
    (UInt64.shiftLeft_add (by decide) (by decide) (by decide)).symm
  -- A layout shifts a field once for each slot below it.  Here all these shifts are made one.
  cases w with
  | uv c =>
      have hmask := coordinate 10 0x3FFF (by decide) rfl
      rw [word, hmask, hmask, hshift]
      simp [encode, Write.register, Register.layout, fields, cells, Layout.pack_field,
        Layout.pack_gap, Layout.pack_nil, Nat.shiftLeft_or_distrib, ← Nat.shiftLeft_add]
  | xyz2 p =>
      have hmask := coordinate 12 0xFFFF (by decide) rfl
      rw [word, hmask, hmask, hshift]
      simp [encode, Write.register, Register.layout, fields, cells, Layout.pack_field,
        Layout.pack_gap, Layout.pack_nil, Nat.shiftLeft_or_distrib, ← Nat.shiftLeft_add,
        UInt64.ofNat_shiftLeft, UInt64.or_assoc, cell_and_all]
  | _ =>
      simp [encode, Write.register, Register.layout, fields, Prim.fields, Tex0.fields, cells, word,
        Prim.word, Tex0.word, Layout.pack_field, Layout.pack_gap, Layout.pack_nil,
        Nat.shiftLeft_or_distrib, ← Nat.shiftLeft_add, UInt64.ofNat_shiftLeft, UInt64.or_assoc,
        ofNat_bit, cell_and_all, byte_and_all]

/-! ## Words as writes -/

/-- The primitive setting in a word. -/
def Prim.read (v : UInt64) : Except DecodeError Prim :=
  if v &&& 0x7 = 7 then .error .invalidTopology
  else
    .ok {
      topology := ⟨(v &&& 0x7).toUInt8⟩
      gouraud := v >>> 3 &&& 1 = 1
      texture := v >>> 4 &&& 1 = 1
      fogging := v >>> 5 &&& 1 = 1
      antialiasing := v >>> 7 &&& 1 = 1 }

/-- The texture setting in a word. -/
def Tex0.read (v : UInt64) : Except DecodeError Tex0 :=
  let pixelFormat : PixelFormat := ⟨(v >>> 20 &&& 0x3F).toUInt8⟩
  if PixelFormat.ct16.code < pixelFormat.code then .error (.pixelFormat pixelFormat.code.toNat)
  else
    .ok {
      base := (v &&& 0x3FFF).toUInt32
      bufferWidth := (v >>> 14 &&& 0x3F).toUInt32
      pixelFormat := pixelFormat
      widthLog := (v >>> 26 &&& 0xF).toUInt32
      heightLog := (v >>> 30 &&& 0xF).toUInt32
      useAlpha := v >>> 34 &&& 1 = 1
      function := ⟨(v >>> 35 &&& 0x3).toUInt8⟩ }

/-- The write to a register in a word. -/
def Register.read (r : Register) (v : UInt64) : Except DecodeError Write :=
  match r with
  | prim => (Prim.read v).map .prim
  | rgbaq =>
    .ok (.rgbaq ⟨(v &&& 0xFF).toUInt32, (v >>> 8 &&& 0xFF).toUInt32, (v >>> 16 &&& 0xFF).toUInt32,
      (v >>> 24 &&& 0xFF).toUInt32⟩)
  | uv => .ok (.uv ⟨(v >>> 4 &&& 0x3FF).toUInt32, (v >>> 20 &&& 0x3FF).toUInt32⟩)
  | xyz2 =>
    .ok (.xyz2 ⟨(v >>> 4 &&& 0xFFF).toUInt32, (v >>> 20 &&& 0xFFF).toUInt32, (v >>> 32).toUInt32⟩)
  | tex0 => (Tex0.read v).map .tex0
  | fog => .ok (.fog (v >>> 56).toUInt8)
  | fogcol =>
    .ok (.fogcol ⟨(v &&& 0xFF).toUInt32, (v >>> 8 &&& 0xFF).toUInt32,
      (v >>> 16 &&& 0xFF).toUInt32⟩)
  | scissor =>
    .ok (.scissor ⟨(v &&& 0x7FF).toUInt32, (v >>> 16 &&& 0x7FF).toUInt32,
      (v >>> 32 &&& 0x7FF).toUInt32, (v >>> 48 &&& 0x7FF).toUInt32⟩)
  | signal => .ok (.signal v.toUInt32 (v >>> 32).toUInt32)
  | finish => .ok (.finish v.toUInt32)
  | label => .ok (.label v.toUInt32 (v >>> 32).toUInt32)

lemma ofNat_and_cell (n : Nat) : UInt32.ofNat (n &&& 2 ^ 32 - 1) = UInt32.ofNat n := by
  rw [Nat.and_two_pow_sub_one_eq_mod]
  exact UInt32.ofNat_mod_size

lemma ofNat_and_byte (n : Nat) : UInt8.ofNat (n &&& 2 ^ 8 - 1) = UInt8.ofNat n := by
  rw [Nat.and_two_pow_sub_one_eq_mod]
  exact UInt8.ofNat_mod_size

/-- The pixel format is read as a code of six bits before it is compared. -/
lemma toNat_pixelFormat (v : UInt64) :
    (v >>> 20 &&& 0x3F).toUInt8.toNat = v.toNat >>> 20 &&& 2 ^ 6 - 1 := by
  rw [UInt64.toNat_toUInt8, UInt64.toNat_and, UInt64.toNat_shiftRight]
  exact Nat.mod_eq_of_lt (Nat.and_le_right.trans_lt (by decide))

/-- **The write in a word**, by shifts and masks. -/
theorem Register.decode_eq_read (r : Register) (v : UInt64) : r.decode v = r.read v := by
  -- A layout shifts a word once for each slot below a field.  Here all these shifts are made one.
  cases r with
  | prim =>
      simp only [decode, Prim.decode, read, Prim.read, Register.layout, Layout.unpack_field,
        Layout.unpack_gap, List.getD_cons_zero, List.getD_cons_succ, ← Nat.shiftRight_add,
        ← UInt8.ofNat_uInt64ToNat, ← UInt64.toNat_inj, UInt64.toNat_and, UInt64.toNat_shiftRight]
      rfl
  | tex0 =>
      have hformat : v.toNat >>> 20 &&& 2 ^ 6 - 1 ≤ PixelFormat.ct16.code.toNat ↔
          ¬ PixelFormat.ct16.code < (v >>> 20 &&& 0x3F).toUInt8 := by
        rw [UInt8.lt_iff_toNat_lt, toNat_pixelFormat, not_lt]
      simp only [decode, Register.layout, Layout.unpack_field, List.getD_cons_zero,
        List.getD_cons_succ, ← Nat.shiftRight_add, Nat.reduceAdd, hformat]
      rw [read, Tex0.read]
      dsimp only
      split_ifs with h
      · rw [toNat_pixelFormat]
        rfl
      · simp only [← UInt8.ofNat_uInt64ToNat, ← UInt32.ofNat_uInt64ToNat, ← UInt64.toNat_inj,
          UInt64.toNat_and, UInt64.toNat_shiftRight]
        rfl
  | finish =>
      simp only [decode, read, Register.layout, Layout.unpack_field, List.getD_cons_zero,
        ofNat_and_cell, UInt32.ofNat_uInt64ToNat]
  | _ =>
      simp only [decode, read, Register.layout, Layout.unpack_field, Layout.unpack_gap,
        List.getD_cons_zero, List.getD_cons_succ, ← Nat.shiftRight_add, Nat.reduceAdd,
        ofNat_and_cell, ofNat_and_byte, ← UInt32.ofNat_uInt64ToNat, ← UInt8.ofNat_uInt64ToNat,
        UInt64.toNat_and, UInt64.toNat_shiftRight]
      rfl

/-! ## Tags -/

namespace Tag

/-- The first word of a tag; the second one is the register list as it is. -/
def firstWord (t : Tag) : UInt64 :=
  t.nloop.toUInt64 &&& (0x7FFF : UInt64)
    ||| flagWord t.eop <<< 15
    ||| flagWord t.pre <<< 46
    ||| (t.prim.toUInt64 &&& 0x7FF) <<< 47
    ||| (t.flg.toUInt64 &&& 0x3) <<< 58
    ||| (t.nreg.toUInt64 &&& 0xF) <<< 60

/-- The tag in two words. -/
def ofWords (lo hi : UInt64) : Tag where
  nloop := (lo &&& 0x7FFF).toUInt16
  eop := lo >>> 15 &&& 1 = 1
  pre := lo >>> 46 &&& 1 = 1
  prim := (lo >>> 47 &&& 0x7FF).toUInt16
  flg := (lo >>> 58 &&& 0x3).toUInt8
  nreg := (lo >>> 60 &&& 0xF).toUInt8
  regs := hi

/-- **The words of a tag**, by shifts and masks. -/
theorem pack_eq (t : Tag) : t.pack = (t.firstWord, t.regs) := by
  rw [pack]
  congr 1
  simp [firstWord, fields, layout, Layout.pack_field, Layout.pack_gap, Layout.pack_nil,
    Nat.shiftLeft_or_distrib, ← Nat.shiftLeft_add, UInt64.ofNat_shiftLeft, UInt64.or_assoc,
    ofNat_bit]

/-- **The tag in two words**, by shifts and masks. -/
theorem unpack_eq_ofWords (lo hi : UInt64) : unpack lo hi = ofWords lo hi := by
  simp only [unpack, ofWords, layout, Layout.unpack_field, Layout.unpack_gap, List.getD_cons_zero,
    List.getD_cons_succ, ← Nat.shiftRight_add, Nat.reduceAdd, ← UInt16.ofNat_uInt64ToNat,
    ← UInt8.ofNat_uInt64ToNat, ← UInt64.toNat_inj, UInt64.toNat_and, UInt64.toNat_shiftRight]
  rfl

/-- A register descriptor. -/
theorem descriptor_eq (t : Tag) (i : Nat) : t.descriptor i = t.regs.toNat >>> (4 * i) &&& 0xF := by
  rw [Nat.shiftRight_eq_div_pow]
  exact (Nat.and_two_pow_sub_one_eq_mod _ 4).symm

end Tag

/-- The primitive setting that rides along in a tag. -/
theorem Prim.encode_eq_word (p : Prim) : p.encode = p.word.toNat := by
  have hword := Write.toNat_encode (.prim p)
  rw [Write.encode_eq_word] at hword
  exact hword.symm

end RegisterScript
