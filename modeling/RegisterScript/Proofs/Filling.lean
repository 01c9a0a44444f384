import Mathlib.Tactic
import RegisterScript.Disassembly
import RegisterScript.Draft

/-!
# Filling a register

A statement selects a register and gives it arguments one by one.  This file is about that one
register, without the machine around it.

**Arguments.**  `Draft.fill?` takes a list of arguments, each of which has to be accepted.

**What a script can say.**  A write is `Named` if its codes have names, and `Scriptable` if besides
it does not ask for the texture's own alpha, which no statement can.  Whatever a draft is filled
with, it completes to nothing but scriptable writes (`Draft.Scriptable` is the invariant).

**Rebuilding.**  `Write.arguments` are the arguments from which a named write is rebuilt:
`fill?_arguments`.

**Moving.**  `Write.shift` is what an offset does to a completed write; it commutes with completing
(`complete?_shift`), and two offsets add up (`shift_shift`).
-/

namespace RegisterScript

/-- An argument of a register statement. -/
inductive Argument where
  | operand (v : Operand)
  | modifier (m : Modifier)
  deriving DecidableEq, Repr

/-- The event that delivers an argument. -/
def Argument.event : Argument → Event
  | operand v => .push v
  | modifier m => .modify m

namespace Draft

/-- The draft after an argument, if the register takes it. -/
def take? (d : Draft) : Argument → Option Draft
  | .operand v => d.pushed? v
  | .modifier m => d.modified? m

/-- The draft after a list of arguments, if the register takes them all. -/
def fill? : Draft → List Argument → Option Draft
  | d, [] => some d
  | d, a :: arguments => (d.take? a).bind (fill? · arguments)

@[simp] lemma fill?_nil (d : Draft) : d.fill? [] = some d := rfl

@[simp] lemma fill?_cons (d : Draft) (a : Argument) (arguments : List Argument) :
    d.fill? (a :: arguments) = (d.take? a).bind (fill? · arguments) := rfl

end Draft

/-! ## Moving -/

/-- The write with a vertex moved; every other write is left alone. -/
def Write.shift (offset : Vec2) : Write → Write
  | xyz2 p => xyz2 ⟨p.x + offset.x, p.y + offset.y, p.z⟩
  | w => w

lemma Draft.complete?_shift (offset : Vec2) (d : Draft) :
    (d.shift offset).complete? = d.complete?.map (Write.shift offset) := by
  cases d with
  | xyz2 position => cases position <;> rfl
  | prim p => simp [Draft.shift, Draft.complete?, Function.comp_def, Write.shift]
  | tex0 t => simp [Draft.shift, Draft.complete?, Function.comp_def, Write.shift]
  | rgbaq c => cases c <;> rfl
  | uv c => cases c <;> rfl
  | fog v => cases v <;> rfl
  | fogcol c => cases c <;> rfl
  | scissor r => cases r <;> rfl
  | signal v => cases v <;> rfl
  | finish v => rfl
  | label v => cases v <;> rfl

@[simp] lemma Draft.ready_shift (offset : Vec2) (d : Draft) :
    (d.shift offset).ready = d.ready := by
  simp [Draft.ready, complete?_shift]

@[simp] lemma Write.register_shift (offset : Vec2) (w : Write) :
    (w.shift offset).register = w.register := by
  cases w <;> rfl

/-- Offsets add up. -/
lemma Write.shift_shift (a b : Vec2) (w : Write) :
    (w.shift a).shift b = w.shift (a.add b) := by
  cases w <;> simp [Write.shift, Vec2.add, UInt32.add_assoc]

/-! ## What a script can say -/

/-- The codes of a write have names. -/
def Write.Named : Write → Prop
  | prim p => p.topology.code ≤ Topology.sprite.code
  | tex0 t =>
    t.pixelFormat.code ≤ PixelFormat.ct16.code ∧ t.function.code ≤ TextureFunction.highlight2.code
  | _ => True

/-- The write as a script can ask for it: a texture's own alpha is not used. -/
def Write.withoutAlpha : Write → Write
  | tex0 t => tex0 { t with useAlpha := false }
  | w => w

/-- A write that a script can ask for. -/
def Write.Scriptable (w : Write) : Prop := w.Named ∧ w.withoutAlpha = w

/-- Whatever the draft completes to can be asked for by a script. -/
def Draft.Scriptable : Draft → Prop
  | prim p => ∀ t ∈ p.topology, t.code ≤ Topology.sprite.code
  | tex0 t =>
    (∀ p ∈ t.pixelFormat, p.code ≤ PixelFormat.ct16.code)
      ∧ t.function.code ≤ TextureFunction.highlight2.code
  | _ => True

/-- The codes that modifiers select have names. -/
def Modifier.Meaning.Named : Modifier.Meaning → Prop
  | .topology t => t.code ≤ Topology.sprite.code
  | .pixelFormat p => p.code ≤ PixelFormat.ct16.code
  | .textureFunction t => t.code ≤ TextureFunction.highlight2.code
  | _ => True

lemma Modifier.named_of_meaning? {m : Modifier} {meaning : Modifier.Meaning}
    (h : m.meaning? = some meaning) : meaning.Named := by
  have hcode : ∀ n k : Nat, n ≤ k → k < 256 → UInt8.ofNat n ≤ UInt8.ofNat k := by
    intro n k hnk hk
    rw [UInt8.le_iff_toNat_le, UInt8.toNat_ofNat', UInt8.toNat_ofNat', Nat.mod_eq_of_lt hk,
      Nat.mod_eq_of_lt (by omega)]
    exact hnk
  rw [Modifier.meaning?.eq_def] at h
  split at h
  · cases h; trivial
  · cases h; trivial
  · cases h; trivial
  · cases h; trivial
  · split_ifs at h with htopology hformat hfunction
    · cases h
      exact hcode _ 6 (by omega) (by decide)
    · cases h
      exact hcode _ 2 (by omega) (by decide)
    · cases h
      exact hcode _ 3 (by omega) (by decide)
  · cases h

namespace Draft

lemma scriptable_empty (r : Register) : (empty r).Scriptable := by
  cases r <;> simp [empty, Scriptable, TextureFunction.decal, TextureFunction.highlight2]

lemma scriptable_shift (offset : Vec2) {d : Draft} (h : d.Scriptable) :
    (d.shift offset).Scriptable := by
  cases d with
  | xyz2 position => cases position <;> trivial
  | _ => exact h

lemma scriptable_pushed? {d d' : Draft} {v : Operand} (h : d.Scriptable)
    (hd : d.pushed? v = some d') : d'.Scriptable := by
  cases d with
  | tex0 t =>
      cases v with
      | scalar c =>
          simp only [pushed?, Tex0Draft.fill, Option.map_eq_some_iff] at hd
          obtain ⟨t', ht, rfl⟩ := hd
          split_ifs at ht <;> cases ht <;> exact h
      | vec2 size =>
          simp only [pushed?, Tex0Draft.fillSize, Option.map_eq_some_iff] at hd
          obtain ⟨t', ht, rfl⟩ := hd
          split_ifs at ht
          cases ht
          exact h
      | _ => cases hd
  | _ => cases v <;> cases hd <;> trivial

lemma scriptable_modified? {d d' : Draft} {m : Modifier} (h : d.Scriptable)
    (hd : d.modified? m = some d') : d'.Scriptable := by
  rw [modified?.eq_def] at hd
  split at hd
  · rename_i p meaning hm
    have hnamed := Modifier.named_of_meaning? hm
    cases meaning <;> cases hd <;> simp_all [Scriptable, Modifier.Meaning.Named]
  · rename_i t meaning hm
    have hnamed := Modifier.named_of_meaning? hm
    cases meaning <;> cases hd <;> simp_all [Scriptable, Modifier.Meaning.Named]
  · cases hd

lemma scriptable_complete? {d : Draft} {w : Write} (h : d.Scriptable)
    (hw : d.complete? = some w) : w.Scriptable := by
  cases d with
  | prim p =>
      simp only [complete?, PrimDraft.complete?, Option.map_eq_some_iff] at hw
      obtain ⟨_, ⟨t, ht, rfl⟩, rfl⟩ := hw
      exact ⟨h t ht, rfl⟩
  | tex0 t =>
      simp only [complete?, Tex0Draft.complete?, Option.map_eq_some_iff, Option.bind_eq_bind,
        Option.bind_eq_some_iff, Option.pure_def, Option.some.injEq] at hw
      obtain ⟨_, ⟨base, _, bufferWidth, _, widthLog, _, heightLog, _, format, hformat, rfl⟩, rfl⟩ :=
        hw
      exact ⟨⟨h.1 format hformat, h.2⟩, rfl⟩
  | finish v =>
      cases hw
      exact ⟨trivial, rfl⟩
  | _ =>
      simp only [complete?, Option.map_eq_some_iff] at hw
      obtain ⟨_, _, rfl⟩ := hw
      exact ⟨trivial, rfl⟩

end Draft

/-! ## Rebuilding -/

/-- The arguments from which a write is rebuilt. -/
def Write.arguments : Write → List Argument
  | prim p => p.modifiers.map .modifier
  | rgbaq color => [.operand (.vec4 color)]
  | uv coord => [.operand (.vec2 coord)]
  | xyz2 position => [.operand (.vec3 position)]
  | tex0 t =>
    [.operand (.scalar t.base), .operand (.scalar t.bufferWidth),
      .operand (.vec2 ⟨t.widthLog, t.heightLog⟩),
      .modifier (.ofPixelFormat t.pixelFormat), .modifier (.ofTextureFunction t.function)]
  | fog value => [.operand (.scalar value.toUInt32)]
  | fogcol color => [.operand (.vec3 color)]
  | scissor rect => [.operand (.vec4 rect)]
  | signal id mask => [.operand (.vec2 ⟨id, mask⟩)]
  | finish value => [.operand (.scalar value)]
  | label id mask => [.operand (.vec2 ⟨id, mask⟩)]

lemma Write.fillEvents_eq (w : Write) : w.fillEvents = w.arguments.map Argument.event := by
  cases w with
  | prim p => simp [Write.fillEvents, Write.arguments, Argument.event, Function.comp_def]
  | _ => rfl

lemma Register.ofAddress?_address (r : Register) : Register.ofAddress? r.address = some r := by
  cases r <;> decide

/-- The modifier that counts on from the first of a group has the meaning that it counts to. -/
lemma Modifier.meaning?_ofTopology {t : Topology} (h : t.code ≤ Topology.sprite.code) :
    (ofTopology t).meaning? = some (.topology t) := by
  obtain ⟨code⟩ := t
  have hle : code.toNat ≤ 6 := UInt8.le_iff_toNat_le.mp h
  obtain ⟨n, hn, rfl⟩ : ∃ n, n ≤ 6 ∧ code = UInt8.ofNat n := ⟨code.toNat, hle, by simp⟩
  interval_cases n <;> rfl

lemma Modifier.meaning?_ofPixelFormat {p : PixelFormat} (h : p.code ≤ PixelFormat.ct16.code) :
    (ofPixelFormat p).meaning? = some (.pixelFormat p) := by
  obtain ⟨code⟩ := p
  have hle : code.toNat ≤ 2 := UInt8.le_iff_toNat_le.mp h
  obtain ⟨n, hn, rfl⟩ : ∃ n, n ≤ 2 ∧ code = UInt8.ofNat n := ⟨code.toNat, hle, by simp⟩
  interval_cases n <;> rfl

lemma Modifier.meaning?_ofTextureFunction {t : TextureFunction}
    (h : t.code ≤ TextureFunction.highlight2.code) :
    (ofTextureFunction t).meaning? = some (.textureFunction t) := by
  obtain ⟨code⟩ := t
  have hle : code.toNat ≤ 3 := UInt8.le_iff_toNat_le.mp h
  obtain ⟨n, hn, rfl⟩ : ∃ n, n ≤ 3 ∧ code = UInt8.ofNat n := ⟨code.toNat, hle, by simp⟩
  interval_cases n <;> rfl

lemma Draft.modified?_prim {m : Modifier} {meaning : Modifier.Meaning} {p p' : PrimDraft}
    (hm : m.meaning? = some meaning) (hp : p.apply meaning = some p') :
    (Draft.prim p).modified? m = some (.prim p') := by
  simp [Draft.modified?, hm, hp]

lemma Draft.modified?_tex0 {m : Modifier} {meaning : Modifier.Meaning} {t t' : Tex0Draft}
    (hm : m.meaning? = some meaning) (ht : t.apply meaning = some t') :
    (Draft.tex0 t).modified? m = some (.tex0 t') := by
  simp [Draft.modified?, hm, ht]

lemma Draft.fill?_prim {p : Prim} (h : p.topology.code ≤ Topology.sprite.code) :
    (Draft.prim {}).fill? (Write.prim p).arguments
      = some (.prim ⟨some p.topology, p.gouraud, p.texture, p.fogging, p.antialiasing⟩) := by
  obtain ⟨topology, gouraud, texture, fogging, antialiasing⟩ := p
  have htopology := Draft.modified?_prim (p := {}) (Modifier.meaning?_ofTopology h) rfl
  simp only [Write.arguments, Prim.modifiers, List.map_cons, Draft.fill?_cons, Draft.take?,
    htopology, Option.bind_some]
  cases gouraud <;> cases texture <;> cases fogging <;> cases antialiasing <;> rfl

lemma Draft.fill?_tex0 {t : Tex0} (h : (Write.tex0 t).Named) :
    (Draft.tex0 {}).fill? (Write.tex0 t).arguments
      = some (.tex0 ⟨some t.base, some t.bufferWidth, some t.widthLog, some t.heightLog,
          some t.pixelFormat, t.function⟩) := by
  simp only [Write.arguments, Draft.fill?_cons, Draft.take?, Draft.pushed?, Tex0Draft.fill,
    Tex0Draft.fillSize, Option.isNone_none, Option.isNone_some, Bool.and_self, if_true,
    Option.map_some, Option.bind_some, Bool.false_eq_true, if_false]
  rw [Draft.modified?_tex0 (Modifier.meaning?_ofPixelFormat h.1) rfl, Option.bind_some,
    Draft.modified?_tex0 (Modifier.meaning?_ofTextureFunction h.2) rfl]
  rfl

/-- **A named write is rebuilt from its arguments**, except that a texture's own alpha is lost. -/
theorem Draft.fill?_arguments {w : Write} (h : w.Named) :
    ∃ d, (Draft.empty w.register).fill? w.arguments = some d
      ∧ d.complete? = some w.withoutAlpha := by
  cases w with
  | prim p => exact ⟨_, Draft.fill?_prim h, rfl⟩
  | tex0 t => exact ⟨_, Draft.fill?_tex0 h, rfl⟩
  | fog v =>
      refine ⟨_, rfl, ?_⟩
      simp [Draft.complete?, Write.withoutAlpha]
  | _ => exact ⟨_, rfl, rfl⟩

end RegisterScript
