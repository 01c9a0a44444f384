import RegisterScript.Proofs.PacketWords

/-!
# Which writes fit their words

The range check takes a write through its word and compares.  It says nothing about fields, and no
table of widths is behind it.  This file says the same thing in terms of the fields: `Write.Fits`
has one bound for each of them.

**Widths.**  A value is cut down to itself exactly if it is below the capacity of its field.  Two
fields are bounded more tightly than by their width, since not all of their codes can be read.

**Reading.**  What the word of a write is read as, at the address of its register, is the reduced
write (`Write.decodeAt_encode_eq_ok_iff`).
-/

namespace RegisterScript

/-! ## Widths -/

lemma Cell.cut_eq_self_iff {width : Nat} {c : Cell} :
    Cell.cut width c = c ↔ c.toNat < 2 ^ width := by
  rw [← UInt32.toNat_inj, Cell.toNat_cut, Nat.mod_eq_iff_lt (Layout.capacity_pos width).ne']
  rfl

lemma cutCode_eq_self_iff {width : Nat} {code : UInt8} :
    cutCode width code = code ↔ code.toNat < 2 ^ width := by
  rw [← UInt8.toNat_inj, toNat_cutCode, Nat.mod_eq_iff_lt (Layout.capacity_pos width).ne']
  rfl

namespace Write

/-- Every field of the write is within the bounds of its register. -/
def Fits : Write → Prop
  | prim p => p.topology.code.toNat ≤ 6
  | rgbaq c => c.x.toNat < 2 ^ 8 ∧ c.y.toNat < 2 ^ 8 ∧ c.z.toNat < 2 ^ 8 ∧ c.w.toNat < 2 ^ 8
  | uv c => c.x.toNat < 2 ^ 10 ∧ c.y.toNat < 2 ^ 10
  | xyz2 p => p.x.toNat < 2 ^ 12 ∧ p.y.toNat < 2 ^ 12
  | tex0 t =>
    t.base.toNat < 2 ^ 14 ∧ t.bufferWidth.toNat < 2 ^ 6 ∧ t.pixelFormat.code.toNat ≤ 2
      ∧ t.widthLog.toNat < 2 ^ 4 ∧ t.heightLog.toNat < 2 ^ 4 ∧ t.function.code.toNat ≤ 3
  | fogcol c => c.x.toNat < 2 ^ 8 ∧ c.y.toNat < 2 ^ 8 ∧ c.z.toNat < 2 ^ 8
  | scissor r =>
    r.x.toNat < 2 ^ 11 ∧ r.y.toNat < 2 ^ 11 ∧ r.z.toNat < 2 ^ 11 ∧ r.w.toNat < 2 ^ 11
  | fog _ | signal _ _ | finish _ | label _ _ => True

/-- Nothing is cut off a write that fits, and it can be read. -/
lemma reduced_eq_self_iff {w : Write} : w.reduced = w ∧ w.Decodable ↔ w.Fits := by
  cases w with
  | prim p =>
      obtain ⟨⟨code⟩, gouraud, texture, fogging, antialiasing⟩ := p
      simp only [reduced, Prim.reduced, prim.injEq, Prim.mk.injEq, Topology.mk.injEq, and_true,
        cutCode_eq_self_iff, Decodable, Fits]
      omega
  | tex0 t =>
      obtain ⟨base, bufferWidth, ⟨pixelFormat⟩, widthLog, heightLog, useAlpha, ⟨function⟩⟩ := t
      have hct16 : PixelFormat.ct16.code.toNat = 2 := rfl
      simp only [reduced, Tex0.reduced, tex0.injEq, Tex0.mk.injEq, PixelFormat.mk.injEq,
        TextureFunction.mk.injEq, true_and, cutCode_eq_self_iff, Cell.cut_eq_self_iff, Decodable,
        hct16, Fits]
      omega
  | rgbaq c | scissor c =>
      cases c
      simp [reduced, Decodable, Fits, Cell.cut_eq_self_iff]
  | uv c =>
      cases c
      simp [reduced, Decodable, Fits, Cell.cut_eq_self_iff]
  | xyz2 c | fogcol c =>
      cases c
      simp [reduced, Decodable, Fits, Cell.cut_eq_self_iff]
  | fog v => simp [reduced, Decodable, Fits]
  | finish v => simp [reduced, Decodable, Fits]
  | signal i m | label i m => simp [reduced, Decodable, Fits]

/-! ## Reading -/

/-- **The word of a write, read at its address**, is the reduced write if it can be read at all. -/
lemma decodeAt_encode_eq_ok_iff {w readBack : Write} :
    decodeAt w.register.address w.encode = .ok readBack ↔
      w.reduced.Decodable ∧ readBack = w.reduced := by
  simp only [decodeAt, Register.ofAddress?_address]
  constructor
  · intro h
    have hdecodable := decodable_of_decode h
    rw [decode_encode hdecodable] at h
    exact ⟨hdecodable, (Except.ok.inj h).symm⟩
  · rintro ⟨hdecodable, rfl⟩
    exact decode_encode hdecodable

/-- **Which writes fit, and what is left of the others.**  The range check passes a write exactly if
every field is within its bounds.  The word of any write, if it can be read at the address of its
register, is the write with every field reduced modulo two to the power of its width; and the
reduced write has the same word. -/
theorem checkRange_widths (w : Write) :
    (w.checkRange = none ↔ w.Fits) ∧
      (∀ readBack, decodeAt w.register.address w.encode = .ok readBack ↔
        w.reduced.Decodable ∧ readBack = w.reduced) ∧
      w.reduced.encode = w.encode :=
  ⟨checkRange_eq_none_iff.trans reduced_eq_self_iff, fun _ => decodeAt_encode_eq_ok_iff,
    encode_reduced w⟩

end Write

end RegisterScript
