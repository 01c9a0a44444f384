import Mathlib.Tactic
import RegisterScript.Packet.Stream
import RegisterScript.Proofs.Filling

/-!
# What is left of a write in its word

A field of a word holds a number up to its width, and what is written into it loses the rest.  This
file says what a word reads back to, for values that fit and for values that do not.

**Layouts.**  `Layout.unpack_pack`: reading gives each value reduced to its field, and
`Layout.pack_reduced`: it is those values that the word holds.

**Writes and tags.**  `Write.reduced` and `Tag.reduced` have every field cut down to its width.  A
word reads back to exactly that (`Write.decode_encode`, `Tag.unpack_pack`), and has lost nothing
more, since the reduced write has the same word (`Write.encode_reduced`).  The range check passes
the writes to which nothing happens on that way (`Write.checkRange_eq_none_iff`).

**Bytes.**  `readWords_wordsToBytes`: the bytes of words are read back to the words.
-/

namespace RegisterScript

namespace Layout

lemma capacity_pos (w : Nat) : 0 < capacity w := Nat.two_pow_pos w

/-- The bits of a slot. -/
def Slot.width : Slot → Nat
  | field w => w
  | gap w => w

/-- The bits of a layout. -/
def width (slots : List Slot) : Nat := (slots.map Slot.width).sum

/-- The values as their fields can carry them; a field without a value carries zero. -/
def reduced : List Slot → List Nat → List Nat
  | .field w :: slots, v :: values => v % capacity w :: reduced slots values
  | .field _ :: slots, [] => 0 :: reduced slots []
  | .gap _ :: slots, values => reduced slots values
  | [], _ => []

lemma pack_lt (slots : List Slot) (values : List Nat) : pack slots values < 2 ^ width slots := by
  induction slots generalizing values with
  | nil => simp [pack]
  | cons slot slots ih =>
      have hsplit : 2 ^ width (slot :: slots) = capacity slot.width * 2 ^ width slots := by
        rw [width, List.map_cons, List.sum_cons, pow_add]
        rfl
      rw [hsplit]
      have hpos : 0 < capacity slot.width * 2 ^ width slots :=
        Nat.mul_pos (capacity_pos _) (Nat.two_pow_pos _)
      cases slot with
      | field w =>
          cases values with
          | nil => exact hpos
          | cons v values =>
              have hv : v % capacity w < capacity w := Nat.mod_lt v (capacity_pos w)
              calc v % capacity w + capacity w * pack slots values
                  < capacity w + capacity w * pack slots values := by omega
                _ = capacity w * (pack slots values + 1) := by ring
                _ ≤ capacity w * 2 ^ width slots := Nat.mul_le_mul_left _ (ih values)
      | gap w => exact Nat.mul_lt_mul_of_pos_left (ih values) (capacity_pos w)

lemma pack_nil (slots : List Slot) : pack slots [] = 0 := by
  induction slots with
  | nil => rfl
  | cons slot slots ih =>
      cases slot with
      | field w => rfl
      | gap w => rw [pack, ih, Nat.mul_zero]

/-- **A word reads back to the reduced values.** -/
theorem unpack_pack (slots : List Slot) (values : List Nat) :
    unpack slots (pack slots values) = reduced slots values := by
  induction slots generalizing values with
  | nil => rfl
  | cons slot slots ih =>
      cases slot with
      | field w =>
          cases values with
          | nil =>
              have hzero := ih []
              rw [pack_nil] at hzero
              simp [pack, unpack, reduced, hzero]
          | cons v values =>
              have hlow : (v % capacity w + capacity w * pack slots values) % capacity w
                  = v % capacity w := by
                rw [Nat.add_mul_mod_self_left, Nat.mod_mod]
              have hhigh : (v % capacity w + capacity w * pack slots values) / capacity w
                  = pack slots values := by
                rw [Nat.add_mul_div_left _ _ (capacity_pos w),
                  Nat.div_eq_of_lt (Nat.mod_lt v (capacity_pos w)), Nat.zero_add]
              rw [pack, unpack, reduced, hlow, hhigh, ih]
      | gap w => rw [pack, unpack, reduced, Nat.mul_div_cancel_left _ (capacity_pos w), ih]

/-- Reducing the values first makes no difference. -/
lemma pack_reduced (slots : List Slot) (values : List Nat) :
    pack slots (reduced slots values) = pack slots values := by
  induction slots generalizing values with
  | nil => rfl
  | cons slot slots ih =>
      cases slot with
      | field w =>
          cases values with
          | nil => simp [reduced, pack, ih, pack_nil]
          | cons v values => rw [reduced, pack, pack, ih, Nat.mod_mod]
      | gap w => rw [reduced, pack, pack, ih]

lemma bit_lt (flag : Bool) : bit flag < capacity 1 := by cases flag <;> decide

@[simp] lemma bit_mod (flag : Bool) : bit flag % capacity 1 = bit flag :=
  Nat.mod_eq_of_lt (bit_lt flag)

@[simp] lemma bit_eq_one (flag : Bool) : decide (bit flag = 1) = flag := by cases flag <;> rfl

end Layout

/-! ## Writes -/

/-- A cell cut down to a number of bits. -/
def Cell.cut (width : Nat) (c : Cell) : Cell := UInt32.ofNat (c.toNat % Layout.capacity width)

@[simp] lemma Cell.toNat_cut (width : Nat) (c : Cell) :
    (Cell.cut width c).toNat = c.toNat % Layout.capacity width :=
  UInt32.toNat_ofNat_of_lt' (lt_of_le_of_lt (Nat.mod_le _ _) c.toNat_lt)

lemma Cell.toNat_mod (c : Cell) : c.toNat % Layout.capacity 32 = c.toNat :=
  Nat.mod_eq_of_lt c.toNat_lt

/-- A code cut down to a number of bits. -/
def cutCode (width : Nat) (code : UInt8) : UInt8 :=
  UInt8.ofNat (code.toNat % Layout.capacity width)

@[simp] lemma toNat_cutCode (width : Nat) (code : UInt8) :
    (cutCode width code).toNat = code.toNat % Layout.capacity width :=
  UInt8.toNat_ofNat_of_lt' (lt_of_le_of_lt (Nat.mod_le _ _) code.toNat_lt)

/-- The setting with its topology cut down to its width. -/
def Prim.reduced (p : Prim) : Prim := { p with topology := ⟨cutCode 3 p.topology.code⟩ }

/-- The setting with every field cut down to its width. -/
def Tex0.reduced (t : Tex0) : Tex0 where
  base := Cell.cut 14 t.base
  bufferWidth := Cell.cut 6 t.bufferWidth
  pixelFormat := ⟨cutCode 6 t.pixelFormat.code⟩
  widthLog := Cell.cut 4 t.widthLog
  heightLog := Cell.cut 4 t.heightLog
  useAlpha := t.useAlpha
  function := ⟨cutCode 2 t.function.code⟩

namespace Write

/-- The write with every field cut down to its width. -/
def reduced : Write → Write
  | prim p => prim p.reduced
  | rgbaq c => rgbaq ⟨Cell.cut 8 c.x, Cell.cut 8 c.y, Cell.cut 8 c.z, Cell.cut 8 c.w⟩
  | uv c => uv ⟨Cell.cut 10 c.x, Cell.cut 10 c.y⟩
  | xyz2 p => xyz2 ⟨Cell.cut 12 p.x, Cell.cut 12 p.y, p.z⟩
  | tex0 t => tex0 t.reduced
  | fogcol c => fogcol ⟨Cell.cut 8 c.x, Cell.cut 8 c.y, Cell.cut 8 c.z⟩
  | scissor r =>
    scissor ⟨Cell.cut 11 r.x, Cell.cut 11 r.y, Cell.cut 11 r.z, Cell.cut 11 r.w⟩
  | w => w

/-- The word of the write, its fields being small enough, is one that can be read. -/
def Decodable : Write → Prop
  | prim p => p.topology.code.toNat ≠ 7
  | tex0 t => t.pixelFormat.code.toNat ≤ PixelFormat.ct16.code.toNat
  | _ => True

@[simp] lemma register_reduced (w : Write) : w.reduced.register = w.register := by
  cases w <;> rfl

/-- The fields of the reduced write are the reduced fields. -/
lemma fields_reduced (w : Write) :
    w.reduced.fields = Layout.reduced w.register.layout w.fields := by
  cases w with
  | fog v =>
      have hv : v.toNat % Layout.capacity 8 = v.toNat := Nat.mod_eq_of_lt v.toNat_lt
      simp [reduced, fields, cells, register, Register.layout, Layout.reduced, hv]
  | _ =>
      simp [reduced, fields, cells, Prim.reduced, Prim.fields, Tex0.reduced, Tex0.fields, register,
        Register.layout, Layout.reduced, Cell.toNat_mod]

lemma width_layout_le (r : Register) : Layout.width r.layout ≤ 64 := by
  cases r <;> decide

lemma toNat_encode (w : Write) : w.encode.toNat = Layout.pack w.register.layout w.fields := by
  have hlt := Layout.pack_lt w.register.layout w.fields
  have hle : 2 ^ Layout.width w.register.layout ≤ 2 ^ 64 :=
    Nat.pow_le_pow_right (by decide) (width_layout_le w.register)
  exact UInt64.toNat_ofNat_of_lt' (lt_of_lt_of_le hlt hle)

/-- The reduced write has the same word. -/
lemma encode_reduced (w : Write) : w.reduced.encode = w.encode := by
  rw [encode, encode, register_reduced, fields_reduced, Layout.pack_reduced]

/-- A word with the fields of a write is that write. -/
lemma decode_of_unpack {w : Write} (hw : w.Decodable) {word : UInt64}
    (h : Layout.unpack w.register.layout word.toNat = w.fields) :
    w.register.decode word = .ok w := by
  cases w with
  | prim p =>
      simp only [Decodable] at hw
      simp only [register, fields] at h
      simp [register, Register.decode, Prim.decode, h, Prim.fields, hw, Except.map]
  | tex0 t =>
      simp only [Decodable] at hw
      simp only [register, fields] at h
      simp [register, Register.decode, h, Tex0.fields, hw]
  | _ =>
      simp only [register, fields, cells] at h
      simp [register, Register.decode, h]

/-- **A word reads back to the reduced write.** -/
theorem decode_encode {w : Write} (hw : w.reduced.Decodable) :
    w.register.decode w.encode = .ok w.reduced := by
  rw [← register_reduced]
  refine decode_of_unpack hw ?_
  rw [register_reduced, toNat_encode, Layout.unpack_pack, fields_reduced]

/-- Only the word of a decodable write can be read. -/
lemma decodable_of_decode {w readBack : Write} (h : w.register.decode w.encode = .ok readBack) :
    w.reduced.Decodable := by
  have hfields : Layout.unpack w.register.layout w.encode.toNat = w.reduced.fields := by
    rw [toNat_encode, Layout.unpack_pack, fields_reduced]
  cases w with
  | prim p =>
      intro hcode
      have hcode' : p.reduced.topology.code.toNat = 7 := hcode
      simp only [register, reduced, fields] at hfields h
      simp [Register.decode, Prim.decode, hfields, Prim.fields, hcode', Except.map] at h
  | tex0 t =>
      by_contra hcode
      have hcode' : ¬ t.reduced.pixelFormat.code.toNat ≤ PixelFormat.ct16.code.toNat := hcode
      simp only [register, reduced, fields] at hfields h
      simp [Register.decode, hfields, Tex0.fields, hcode'] at h
  | _ => trivial

/-- **The range check** passes exactly what is its own reduced form and can be read. -/
theorem checkRange_eq_none_iff {w : Write} :
    w.checkRange = none ↔ w.reduced = w ∧ w.Decodable := by
  rw [checkRange]
  constructor
  · intro h
    split at h
    · cases h
    · rename_i readBack hdecode
      split_ifs at h with hsame
      subst hsame
      have hdecodable := decodable_of_decode hdecode
      have hreduced : readBack.reduced = readBack := by
        rw [decode_encode hdecodable] at hdecode
        exact Except.ok.inj hdecode
      exact ⟨hreduced, hreduced ▸ hdecodable⟩
  · rintro ⟨hreduced, hdecodable⟩
    rw [decode_encode (hreduced.symm ▸ hdecodable), hreduced]
    exact if_pos rfl

lemma decodable_of_named {w : Write} (hw : w.Named) : w.Decodable := by
  cases w with
  | prim p =>
      have hcode : p.topology.code.toNat ≤ 6 := UInt8.le_iff_toNat_le.mp hw
      change p.topology.code.toNat ≠ 7
      omega
  | tex0 t => exact UInt8.le_iff_toNat_le.mp hw.1
  | _ => trivial

lemma cutCode_le {width : Nat} {code bound : UInt8} (h : code ≤ bound) :
    cutCode width code ≤ bound := by
  rw [UInt8.le_iff_toNat_le, toNat_cutCode]
  exact le_trans (Nat.mod_le _ _) (UInt8.le_iff_toNat_le.mp h)

/-- What a script can ask for is read back as something that a script can ask for. -/
lemma Scriptable.reduced {w : Write} (hw : w.Scriptable) : w.reduced.Scriptable := by
  obtain ⟨hnamed, halpha⟩ := hw
  cases w with
  | prim p => exact ⟨cutCode_le hnamed, rfl⟩
  | tex0 t =>
      have hplain : t.useAlpha = false := by
        have hsame := Write.tex0.inj halpha
        rw [← hsame]
      refine ⟨⟨cutCode_le hnamed.1, cutCode_le hnamed.2⟩, ?_⟩
      simp [Write.reduced, withoutAlpha, Tex0.reduced, hplain]
  | _ => exact ⟨trivial, rfl⟩

end Write

/-! ## Tags -/

/-- The setting that a number holds, read from the word of a setting. -/
lemma Prim.decode_encode {p : Prim} (hp : (Write.prim p).reduced.Decodable) :
    Prim.decode p.encode = .ok p.reduced := by
  have hfields : Layout.unpack Register.prim.layout p.encode = p.reduced.fields := by
    rw [Prim.encode, Layout.unpack_pack]
    exact (Write.fields_reduced (.prim p)).symm
  have htopology : p.reduced.topology.code.toNat ≠ 7 := hp
  simp only [Prim.fields] at hfields
  simp [Prim.decode, hfields, htopology]

lemma Prim.encode_reduced (p : Prim) : p.reduced.encode = p.encode := by
  have hfields : p.reduced.fields = Layout.reduced Register.prim.layout p.fields :=
    Write.fields_reduced (.prim p)
  rw [Prim.encode, Prim.encode, hfields, Layout.pack_reduced]

lemma Prim.encode_lt (p : Prim) : p.encode < 2 ^ 8 := Layout.pack_lt _ _

namespace Tag

/-- The tag with every field cut down to its width. -/
def reduced (t : Tag) : Tag :=
  { t with
    nloop := UInt16.ofNat (t.nloop.toNat % Layout.capacity 15)
    prim := UInt16.ofNat (t.prim.toNat % Layout.capacity 11)
    flg := cutCode 2 t.flg
    nreg := cutCode 4 t.nreg }

/-- **Two words read back to the reduced tag.** -/
theorem unpack_pack (t : Tag) : unpack t.pack.1 t.pack.2 = t.reduced := by
  have hword : t.pack.1.toNat = Layout.pack layout t.fields :=
    UInt64.toNat_ofNat_of_lt' (Layout.pack_lt layout t.fields)
  have hfields : Layout.unpack layout t.pack.1.toNat
      = [t.nloop.toNat % Layout.capacity 15, Layout.bit t.eop, Layout.bit t.pre,
        t.prim.toNat % Layout.capacity 11, t.flg.toNat % Layout.capacity 2,
        t.nreg.toNat % Layout.capacity 4] := by
    rw [hword, Layout.unpack_pack]
    simp [layout, fields, Layout.reduced]
  rw [unpack, hfields]
  simp [reduced, pack, cutCode]

end Tag

/-! ## Bytes -/

lemma ofLittleEndian_littleEndian (count n : Nat) :
    ofLittleEndian (littleEndian count n) = n % 256 ^ count := by
  induction count generalizing n with
  | zero => simp [littleEndian, ofLittleEndian, Nat.mod_one]
  | succ count ih =>
      have hlow : (UInt8.ofNat n).toNat = n % 256 := UInt8.toNat_ofNat'
      rw [littleEndian, ofLittleEndian, ih, hlow, pow_succ', Nat.mod_mul]

lemma ofLittleEndian_wordBytes (word : UInt64) :
    UInt64.ofNat (ofLittleEndian (wordBytes word)) = word := by
  have hlt : word.toNat < 256 ^ 8 := word.toNat_lt
  rw [wordBytes, ofLittleEndian_littleEndian, Nat.mod_eq_of_lt hlt, UInt64.ofNat_toNat]

lemma length_wordsToBytes (words : List UInt64) :
    (wordsToBytes words).length = 8 * words.length := by
  induction words with
  | nil => rfl
  | cons word words ih =>
      have hword : (wordBytes word).length = 8 := rfl
      rw [wordsToBytes] at ih ⊢
      rw [List.flatMap_cons, List.length_append, ih, hword, List.length_cons]
      omega

lemma wordsFrom_wordsToBytes (read words : List UInt64) :
    wordsFrom read (wordsToBytes words) = read.reverse ++ words := by
  induction words generalizing read with
  | nil => simp [wordsToBytes, wordsFrom]
  | cons word words ih =>
      have hword := ofLittleEndian_wordBytes word
      rw [wordsToBytes, List.flatMap_cons]
      change wordsFrom (UInt64.ofNat (ofLittleEndian (wordBytes word)) :: read) (wordsToBytes words)
        = _
      rw [hword, ih]
      simp

/-- **Words are read back from their bytes.** -/
theorem readWords_wordsToBytes (words : List UInt64) :
    readWords (wordsToBytes words) = .ok words := by
  rw [readWords, length_wordsToBytes, if_pos (Nat.mul_mod_right 8 _), wordsFrom_wordsToBytes]
  rfl

end RegisterScript
