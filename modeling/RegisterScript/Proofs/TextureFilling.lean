import RegisterScript.Proofs.Filling

/-!
# Filling the texture register

The texture register is the only one that is filled cell by cell: four cells, of which the last two
may also come as a pair, a pixel format and a function, in any order and with refusals in between.
This file says in closed form what that comes to.

**Offers.**  `Draft.offer` is one push or one modifier.  A refusal leaves the register as it is, so
a run of offers is that of the ones that were taken (`Draft.afterAll_taken`).

**Parts.**  What has been taken is sorted by kind into `TextureParts`, and the register is a
function of the parts alone: `TextureParts.draft`.  `TextureParts.Accepts` is the rule by which the
next offer is taken.  One offer keeps to both (`TextureParts.step`), and so does a run of them
(`TextureParts.run`).

**Order.**  Operands and modifiers fill different fields, so a modifier can be moved past operands
(`Draft.afterAll_sorted`).
-/

namespace RegisterScript

/-! ## Offers -/

namespace Draft

/-- Offers an argument to a register. -/
def offer (d : Draft) : Argument → Except Rejection Draft
  | .operand v => d.push v
  | .modifier m => d.apply m

/-- The register after an offer.  If it was refused nothing has changed. -/
def after (d : Draft) (a : Argument) : Draft := (d.offer a).toOption.getD d

/-- The register after a run of offers. -/
def afterAll (d : Draft) (offers : List Argument) : Draft := offers.foldl after d

/-- The offers of a run that are taken. -/
def taken (d : Draft) : List Argument → List Argument
  | [] => []
  | a :: offers =>
    match d.offer a with
    | .ok d' => a :: d'.taken offers
    | .error _ => d.taken offers

@[simp] lemma afterAll_nil (d : Draft) : d.afterAll [] = d := rfl

@[simp] lemma afterAll_cons (d : Draft) (a : Argument) (offers : List Argument) :
    d.afterAll (a :: offers) = (d.after a).afterAll offers := rfl

section Offer

variable {d d' : Draft} {a : Argument}

lemma after_of_ok (h : d.offer a = .ok d') : d.after a = d' := by
  rw [after, h]
  rfl

lemma after_of_error {e : Rejection} (h : d.offer a = .error e) : d.after a = d := by
  rw [after, h]
  rfl

lemma taken_of_ok (h : d.offer a = .ok d') (offers : List Argument) :
    d.taken (a :: offers) = a :: d'.taken offers := by
  rw [taken, h]

lemma taken_of_error {e : Rejection} (h : d.offer a = .error e) (offers : List Argument) :
    d.taken (a :: offers) = d.taken offers := by
  rw [taken, h]

lemma offer_eq_ok_iff : d.offer a = .ok d' ↔ d.take? a = some d' := by
  cases a with
  | operand v =>
      rw [offer, push, take?]
      cases d.pushed? v <;> simp
  | modifier m =>
      rw [offer, apply, take?]
      cases d.modified? m <;> simp

lemma exists_error_of_take? (h : d.take? a = none) : ∃ e, d.offer a = .error e := by
  cases a with
  | operand v => exact ⟨_, by rw [offer, push, show d.pushed? v = none from h]⟩
  | modifier m => exact ⟨_, by rw [offer, apply, show d.modified? m = none from h]⟩

lemma after_eq_getD (d : Draft) (a : Argument) : d.after a = (d.take? a).getD d := by
  cases h : d.take? a with
  | none =>
      obtain ⟨e, he⟩ := exists_error_of_take? h
      exact after_of_error he
  | some d' => exact after_of_ok (offer_eq_ok_iff.mpr h)

end Offer

/-- **Refused offers can be dropped**: what is left leads to the same register. -/
lemma afterAll_taken (d : Draft) (offers : List Argument) :
    d.afterAll (d.taken offers) = d.afterAll offers := by
  induction offers generalizing d with
  | nil => rfl
  | cons a offers ih =>
      cases h : d.offer a with
      | error e => rw [taken_of_error h, afterAll_cons, after_of_error h, ih]
      | ok d' => rw [taken_of_ok h, afterAll_cons, afterAll_cons, after_of_ok h, ih]

/-- Of the offers that were taken none is refused. -/
lemma taken_taken (d : Draft) (offers : List Argument) :
    d.taken (d.taken offers) = d.taken offers := by
  induction offers generalizing d with
  | nil => rfl
  | cons a offers ih =>
      cases h : d.offer a with
      | error e => rw [taken_of_error h, ih]
      | ok d' => rw [taken_of_ok h, taken_of_ok h, ih]

end Draft

/-! ## Kinds of arguments -/

/-- The formats that have a modifier. -/
def PixelFormat.all : List PixelFormat := [⟨0⟩, ⟨1⟩, ⟨2⟩]

/-- The functions that have a modifier. -/
def TextureFunction.all : List TextureFunction := [⟨0⟩, ⟨1⟩, ⟨2⟩, ⟨3⟩]

namespace Argument

/-- The cell of a single operand. -/
def scalar? : Argument → Option Cell
  | operand (.scalar c) => some c
  | _ => none

/-- The two cells of a pair. -/
def size? : Argument → Option Vec2
  | operand (.vec2 v) => some v
  | _ => none

/-- The pixel format that is asked for. -/
def format? (a : Argument) : Option PixelFormat :=
  PixelFormat.all.find? fun p => a = modifier (.ofPixelFormat p)

/-- The texture function that is asked for. -/
def function? (a : Argument) : Option TextureFunction :=
  TextureFunction.all.find? fun f => a = modifier (.ofTextureFunction f)

end Argument

/-! ## Modifiers -/

/-- Among modifiers that are all different, one is found exactly if it is there. -/
lemma find?_modifier_eq_some_iff {β : Type} {select : β → Modifier}
    (hselect : Function.Injective select) {choices : List β} {m : Modifier} {choice : β} :
    (choices.find? fun b => Argument.modifier m = .modifier (select b)) = some choice ↔
      choice ∈ choices ∧ m = select choice := by
  constructor
  · intro h
    exact ⟨List.mem_of_find?_eq_some h, by simpa using List.find?_some h⟩
  · rintro ⟨hmem, rfl⟩
    obtain ⟨found, hfound⟩ : ∃ found, (choices.find? fun b =>
        Argument.modifier (select choice) = .modifier (select b)) = some found := by
      rw [← Option.isSome_iff_exists, List.find?_isSome]
      exact ⟨choice, hmem, by simp⟩
    have hsame : select choice = select found := by simpa using List.find?_some hfound
    rw [hfound, hselect hsame]

lemma Modifier.ofPixelFormat_injective : Function.Injective Modifier.ofPixelFormat := by
  rintro ⟨a⟩ ⟨b⟩ h
  simp only [ofPixelFormat, Modifier.mk.injEq] at h
  rw [UInt8.toNat_inj.mp (by omega : a.toNat = b.toNat)]

lemma Modifier.ofTextureFunction_injective : Function.Injective Modifier.ofTextureFunction := by
  rintro ⟨a⟩ ⟨b⟩ h
  simp only [ofTextureFunction, Modifier.mk.injEq] at h
  rw [UInt8.toNat_inj.mp (by omega : a.toNat = b.toNat)]

section Selected

variable {m : Modifier} {format : PixelFormat} {function : TextureFunction}

lemma Argument.format?_eq_some_iff :
    (modifier m).format? = some format ↔ format ∈ PixelFormat.all ∧ m = .ofPixelFormat format :=
  find?_modifier_eq_some_iff Modifier.ofPixelFormat_injective

lemma Argument.function?_eq_some_iff :
    (modifier m).function? = some function ↔
      function ∈ TextureFunction.all ∧ m = .ofTextureFunction function :=
  find?_modifier_eq_some_iff Modifier.ofTextureFunction_injective

/-- A modifier does not select both. -/
lemma Argument.function?_of_format? (h : (modifier m).format? = some format) :
    (modifier m).function? = none := by
  obtain ⟨hmem, rfl⟩ := format?_eq_some_iff.mp h
  fin_cases hmem <;> rfl

lemma Modifier.code_of_meaning? {meaning : Modifier.Meaning} (h : m.meaning? = some meaning) :
    1 ≤ m.code ∧ m.code ≤ 18 := by
  rw [Modifier.meaning?.eq_def] at h
  split at h
  · simp_all
  · simp_all
  · simp_all
  · simp_all
  · split_ifs at h <;> simp_all <;> omega
  · cases h

end Selected

/-- A texture register takes the modifiers that select a format or a function. -/
lemma Draft.modified?_tex0_eq (t : Tex0Draft) (m : Modifier) :
    (Draft.tex0 t).modified? m =
      (((Argument.modifier m).format?.map fun format =>
          Draft.tex0 { t with pixelFormat := some format })
        <|> (Argument.modifier m).function?.map fun function =>
          Draft.tex0 { t with function := function }) := by
  by_cases hrange : 1 ≤ m.code ∧ m.code ≤ 18
  · obtain ⟨code⟩ := m
    obtain ⟨hlow, hhigh⟩ := hrange
    change 1 ≤ code at hlow
    change code ≤ 18 at hhigh
    interval_cases code <;> rfl
  · have hmeaning : m.meaning? = none :=
      Option.eq_none_iff_forall_ne_some.mpr fun _ h => hrange (Modifier.code_of_meaning? h)
    have hformat : (Argument.modifier m).format? = none := by
      refine Option.eq_none_iff_forall_ne_some.mpr fun format h => hrange ?_
      obtain ⟨hmem, rfl⟩ := Argument.format?_eq_some_iff.mp h
      fin_cases hmem <;> decide
    have hfunction : (Argument.modifier m).function? = none := by
      refine Option.eq_none_iff_forall_ne_some.mpr fun function h => hrange ?_
      obtain ⟨hmem, rfl⟩ := Argument.function?_eq_some_iff.mp h
      fin_cases hmem <;> decide
    simp [Draft.modified?, hmeaning, hformat, hfunction]

/-! ## Parts -/

/-- A register whose cells are all there completes as soon as it has a pixel format. -/
lemma Tex0Draft.complete?_full (x y z w : Cell) (format : Option PixelFormat)
    (function : TextureFunction) (t : Tex0) :
    (⟨some x, some y, some z, some w, format, function⟩ : Tex0Draft).complete? = some t ↔
      [x, y, z, w] = [t.base, t.bufferWidth, t.widthLog, t.heightLog] ∧
        format = some t.pixelFormat ∧ t.function = function ∧ t.useAlpha = false := by
  cases format with
  | none => simp [complete?]
  | some format =>
      have hcomplete :
          (⟨some x, some y, some z, some w, some format, function⟩ : Tex0Draft).complete?
            = some ⟨x, y, format, z, w, false, function⟩ := rfl
      rw [hcomplete]
      constructor
      · intro h
        obtain rfl := Option.some.inj h
        exact ⟨rfl, rfl, rfl, rfl⟩
      · rintro ⟨hcells, hformat, hfunction, halpha⟩
        obtain ⟨base, bufferWidth, pixelFormat, widthLog, heightLog, useAlpha, function'⟩ := t
        simp_all

/-- What a texture register has been given, each kind in the order in which it came. -/
structure TextureParts where
  scalars : List Cell
  sizes : List Vec2
  formats : List PixelFormat
  functions : List TextureFunction

namespace TextureParts

/-- Sorts arguments by kind. -/
def of (arguments : List Argument) : TextureParts where
  scalars := arguments.filterMap Argument.scalar?
  sizes := arguments.filterMap Argument.size?
  formats := arguments.filterMap Argument.format?
  functions := arguments.filterMap Argument.function?

/-- The number of cells. -/
def filled (p : TextureParts) : Nat := p.scalars.length + 2 * p.sizes.length

/-- The rule by which an argument is taken by a register with these parts. -/
def Accepts (p : TextureParts) : Argument → Prop
  | .operand (.scalar _) => p.filled < 4
  | .operand (.vec2 _) => p.sizes = [] ∧ p.scalars.length ≤ 2
  | .operand _ => False
  | .modifier m => (∃ format ∈ PixelFormat.all, m = .ofPixelFormat format) ∨
      ∃ function ∈ TextureFunction.all, m = .ofTextureFunction function

/-- Parts that a register can have: four scalars at most, or a pair and two scalars at most. -/
inductive Fitting : TextureParts → Prop
  | single {scalars : List Cell} {formats : List PixelFormat} {functions : List TextureFunction}
      (h : scalars.length ≤ 4) : Fitting ⟨scalars, [], formats, functions⟩
  | paired {scalars : List Cell} {size : Vec2} {formats : List PixelFormat}
      {functions : List TextureFunction} (h : scalars.length ≤ 2) :
      Fitting ⟨scalars, [size], formats, functions⟩

/-- The register that has these parts. -/
def draft (p : TextureParts) : Tex0Draft where
  base := p.scalars[0]?
  bufferWidth := p.scalars[1]?
  widthLog := p.sizes.head?.map Vec2.x <|> p.scalars[2]?
  heightLog := p.sizes.head?.map Vec2.y <|> p.scalars[3]?
  pixelFormat := p.formats.getLast?
  function := p.functions.getLast?.getD .decal

/-- The cells in the order of the register. -/
def cells (p : TextureParts) : List Cell :=
  p.scalars ++ p.sizes.flatMap fun size => [size.x, size.y]

variable {p : TextureParts}

lemma length_cells (p : TextureParts) : p.cells.length = p.filled := by
  simp [cells, filled, List.length_flatMap, Nat.mul_comm]

/-! ### One offer -/

/-- A scalar goes into the first open cell, which is that behind the scalars before it. -/
lemma fill_draft (h : p.Fitting) (c : Cell) :
    p.draft.fill c
      = if p.filled < 4 then some { p with scalars := p.scalars ++ [c] }.draft else none := by
  cases h with
  | @single scalars formats functions hlength =>
      rcases scalars with _ | ⟨x, _ | ⟨y, _ | ⟨z, _ | ⟨w, rest⟩⟩⟩⟩
      · rfl
      · rfl
      · rfl
      · rfl
      · simp [draft, Tex0Draft.fill, filled]
  | @paired scalars size formats functions hlength =>
      rcases scalars with _ | ⟨x, _ | ⟨y, rest⟩⟩
      · rfl
      · rfl
      · simp [draft, Tex0Draft.fill, filled]

/-- A pair goes into the last two cells, as long as both are open. -/
lemma fillSize_draft (h : p.Fitting) (size : Vec2) :
    p.draft.fillSize size
      = if p.sizes = [] ∧ p.scalars.length ≤ 2 then some { p with sizes := p.sizes ++ [size] }.draft
        else none := by
  cases h with
  | @single scalars formats functions hlength =>
      rcases scalars with _ | ⟨x, _ | ⟨y, _ | ⟨z, rest⟩⟩⟩
      · rfl
      · rfl
      · rfl
      · simp [draft, Tex0Draft.fillSize]
  | paired hlength => simp [draft, Tex0Draft.fillSize]

/-- What the register completes to. -/
lemma complete?_draft_eq_some_iff (h : p.Fitting) (t : Tex0) :
    p.draft.complete? = some t ↔
      p.cells = [t.base, t.bufferWidth, t.widthLog, t.heightLog] ∧
        p.formats.getLast? = some t.pixelFormat ∧
        t.function = p.functions.getLast?.getD .decal ∧ t.useAlpha = false := by
  cases h with
  | @single scalars formats functions hlength =>
      rcases scalars with _ | ⟨x, _ | ⟨y, _ | ⟨z, _ | ⟨w, rest⟩⟩⟩⟩
      · simp [draft, Tex0Draft.complete?, cells]
      · simp [draft, Tex0Draft.complete?, cells]
      · simp [draft, Tex0Draft.complete?, cells]
      · simp [draft, Tex0Draft.complete?, cells]
      · obtain rfl : rest = [] := by
          rw [← List.length_eq_zero_iff]
          simp only [List.length_cons] at hlength
          omega
        exact Tex0Draft.complete?_full x y z w _ _ t
  | @paired scalars size formats functions hlength =>
      rcases scalars with _ | ⟨x, _ | ⟨y, rest⟩⟩
      · simp [draft, Tex0Draft.complete?, cells]
      · simp [draft, Tex0Draft.complete?, cells]
      · obtain rfl : rest = [] := by simpa using hlength
        exact Tex0Draft.complete?_full x y size.x size.y _ _ t

lemma Fitting.addScalar (h : p.Fitting) (hroom : p.filled < 4) (c : Cell) :
    Fitting { p with scalars := p.scalars ++ [c] } := by
  cases h with
  | single hlength =>
      refine .single ?_
      simp only [filled, List.length_nil] at hroom
      simp only [List.length_append, List.length_singleton]
      omega
  | paired hlength =>
      refine .paired ?_
      simp only [filled, List.length_singleton] at hroom
      simp only [List.length_append, List.length_singleton]
      omega

lemma Fitting.addSize (hroom : p.sizes = [] ∧ p.scalars.length ≤ 2) (size : Vec2) :
    Fitting { p with sizes := p.sizes ++ [size] } := by
  rw [hroom.1]
  exact .paired hroom.2

lemma Fitting.withSettings (h : p.Fitting) (formats : List PixelFormat)
    (functions : List TextureFunction) :
    Fitting { p with formats := formats, functions := functions } := by
  cases h with
  | single hlength => exact .single hlength
  | paired hlength => exact .paired hlength

lemma of_concat (arguments : List Argument) (a : Argument) :
    of (arguments ++ [a]) =
      { scalars := (of arguments).scalars ++ a.scalar?.toList
        sizes := (of arguments).sizes ++ a.size?.toList
        formats := (of arguments).formats ++ a.format?.toList
        functions := (of arguments).functions ++ a.function?.toList } := by
  have hsingle : ∀ {β : Type} (g : Argument → Option β), [a].filterMap g = (g a).toList := by
    intro β g
    cases h : g a <;> simp [h]
  simp [of, hsingle]

section Concat

variable (arguments : List Argument)

lemma of_concat_scalar (c : Cell) :
    of (arguments ++ [.operand (.scalar c)]) =
      { of arguments with scalars := (of arguments).scalars ++ [c] } := by
  rw [of_concat]
  simp [Argument.scalar?, Argument.size?, Argument.format?, Argument.function?]

lemma of_concat_size (size : Vec2) :
    of (arguments ++ [.operand (.vec2 size)]) =
      { of arguments with sizes := (of arguments).sizes ++ [size] } := by
  rw [of_concat]
  simp [Argument.scalar?, Argument.size?, Argument.format?, Argument.function?]

lemma of_concat_modifier (m : Modifier) :
    of (arguments ++ [.modifier m]) =
      { of arguments with
        formats := (of arguments).formats ++ (Argument.modifier m).format?.toList
        functions := (of arguments).functions ++ (Argument.modifier m).function?.toList } := by
  rw [of_concat]
  simp [Argument.scalar?, Argument.size?]

end Concat

/-- **One offer**: it is taken exactly by the rule, and then the register is that of one part
more. -/
lemma step {before : List Argument} (h : (of before).Fitting) (a : Argument) :
    ((of before).Accepts a ∧ (of (before ++ [a])).Fitting ∧
      (Draft.tex0 (of before).draft).take? a = some (.tex0 (of (before ++ [a])).draft)) ∨
    ¬ (of before).Accepts a ∧ (Draft.tex0 (of before).draft).take? a = none := by
  cases a with
  | operand v =>
      cases v with
      | scalar c =>
          have hfill := fill_draft h c
          by_cases hroom : (of before).filled < 4
          · rw [if_pos hroom] at hfill
            rw [of_concat_scalar]
            exact .inl ⟨hroom, h.addScalar hroom c, congrArg (Option.map Draft.tex0) hfill⟩
          · rw [if_neg hroom] at hfill
            exact .inr ⟨hroom, congrArg (Option.map Draft.tex0) hfill⟩
      | vec2 size =>
          have hfill := fillSize_draft h size
          by_cases hroom : (of before).sizes = [] ∧ (of before).scalars.length ≤ 2
          · rw [if_pos hroom] at hfill
            rw [of_concat_size]
            exact .inl ⟨hroom, .addSize hroom size, congrArg (Option.map Draft.tex0) hfill⟩
          · rw [if_neg hroom] at hfill
            exact .inr ⟨hroom, congrArg (Option.map Draft.tex0) hfill⟩
      | vec3 v => exact .inr ⟨id, rfl⟩
      | vec4 v => exact .inr ⟨id, rfl⟩
  | modifier m =>
      rw [of_concat_modifier]
      have htake : (Draft.tex0 (of before).draft).take? (.modifier m) = _ :=
        Draft.modified?_tex0_eq (of before).draft m
      cases hformat : (Argument.modifier m).format? with
      | some format =>
          have hfunction : (Argument.modifier m).function? = none :=
            Argument.function?_of_format? hformat
          rw [hformat, hfunction] at htake
          refine .inl ⟨.inl ⟨format, Argument.format?_eq_some_iff.mp hformat⟩,
            h.withSettings _ _, ?_⟩
          rw [htake]
          simp [draft, hfunction]
      | none =>
          cases hfunction : (Argument.modifier m).function? with
          | some function =>
              rw [hformat, hfunction] at htake
              refine .inl ⟨.inr ⟨function, Argument.function?_eq_some_iff.mp hfunction⟩,
                h.withSettings _ _, ?_⟩
              rw [htake]
              simp [draft]
          | none =>
              rw [hformat, hfunction] at htake
              refine .inr ⟨?_, htake⟩
              rintro (⟨format, hmem⟩ | ⟨function, hmem⟩)
              · rw [Argument.format?_eq_some_iff.mpr hmem] at hformat
                cases hformat
              · rw [Argument.function?_eq_some_iff.mpr hmem] at hfunction
                cases hfunction

/-- **A run of offers.** -/
lemma run {before : List Argument} (h : (of before).Fitting) (offers : List Argument) :
    (of (before ++ (Draft.tex0 (of before).draft).taken offers)).Fitting ∧
      (Draft.tex0 (of before).draft).afterAll offers
        = .tex0 (of (before ++ (Draft.tex0 (of before).draft).taken offers)).draft := by
  induction offers generalizing before with
  | nil => simpa [Draft.taken] using h
  | cons a offers ih =>
      rcases step h a with ⟨-, hfitting, htake⟩ | ⟨-, htake⟩
      · have hoffer := Draft.offer_eq_ok_iff.mpr htake
        have hrun := ih hfitting
        rw [List.append_assoc, List.singleton_append] at hrun
        rwa [Draft.taken_of_ok hoffer, Draft.afterAll_cons, Draft.after_of_ok hoffer]
      · obtain ⟨e, hoffer⟩ := Draft.exists_error_of_take? htake
        rw [Draft.taken_of_error hoffer, Draft.afterAll_cons, Draft.after_of_error hoffer]
        exact ih h

lemma exists_complete?_draft_iff (h : p.Fitting) :
    (∃ t, p.draft.complete? = some t) ↔ p.filled = 4 ∧ p.formats ≠ [] := by
  simp only [complete?_draft_eq_some_iff h, ← length_cells]
  constructor
  · rintro ⟨t, hcells, hformat, -, -⟩
    refine ⟨by rw [hcells]; rfl, fun hnil => ?_⟩
    rw [hnil] at hformat
    cases hformat
  · rintro ⟨hlength, hformats⟩
    obtain ⟨x, y, z, w, hcells⟩ : ∃ x y z w, p.cells = [x, y, z, w] := by
      generalize p.cells = cells at hlength
      rcases cells with _ | ⟨x, _ | ⟨y, _ | ⟨z, _ | ⟨w, _ | ⟨_, _⟩⟩⟩⟩⟩ <;> simp at hlength ⊢
    exact ⟨⟨x, y, p.formats.getLast hformats, z, w, false, p.functions.getLast?.getD .decal⟩,
      hcells, List.getLast?_eq_some_getLast hformats, rfl, rfl⟩

lemma ready_draft_iff (h : p.Fitting) :
    (Draft.tex0 p.draft).ready = true ↔ p.filled = 4 ∧ p.formats ≠ [] := by
  rw [← exists_complete?_draft_iff h, Draft.ready, Draft.complete?, Option.isSome_map,
    Option.isSome_iff_exists]

lemma Fitting.filled_le (h : p.Fitting) : p.filled ≤ 4 := by
  cases h with
  | single hlength =>
      simp only [filled, List.length_nil]
      omega
  | paired hlength =>
      simp only [filled, List.length_singleton]
      omega

/-- Parts are never lost. -/
lemma filled_of_append {arguments more : List Argument} (h : (of (arguments ++ more)).Fitting)
    (hready : (of arguments).filled = 4 ∧ (of arguments).formats ≠ []) :
    (of (arguments ++ more)).filled = 4 ∧ (of (arguments ++ more)).formats ≠ [] := by
  obtain ⟨hfilled, hformats⟩ := hready
  have hle := h.filled_le
  simp only [of, filled, List.filterMap_append, List.length_append] at hfilled hle ⊢
  refine ⟨by omega, ?_⟩
  exact List.append_ne_nil_of_left_ne_nil hformats _

end TextureParts

/-! ## Order -/

/-- The operand, if the argument is one. -/
def Argument.operand? : Argument → Option Operand
  | operand v => some v
  | modifier _ => none

/-- The modifier, if the argument is one. -/
def Argument.modifier? : Argument → Option Modifier
  | operand _ => none
  | modifier m => some m

namespace Draft

lemma after_tex0_modifier (t : Tex0Draft) (m : Modifier) :
    (tex0 t).after (.modifier m) = tex0 { t with
      pixelFormat := (Argument.modifier m).format? <|> t.pixelFormat
      function := (Argument.modifier m).function?.getD t.function } := by
  rw [after_eq_getD, take?, modified?_tex0_eq]
  cases hformat : (Argument.modifier m).format? with
  | some format =>
      rw [Argument.function?_of_format? hformat]
      rfl
  | none => cases (Argument.modifier m).function? <;> rfl

lemma exists_after_tex0 (t : Tex0Draft) (a : Argument) : ∃ t', (tex0 t).after a = tex0 t' := by
  cases a with
  | modifier m => exact ⟨_, after_tex0_modifier t m⟩
  | operand v =>
      rw [after_eq_getD]
      cases v with
      | scalar c => cases h : t.fill c <;> simp [take?, pushed?, h]
      | vec2 size => cases h : t.fillSize size <;> simp [take?, pushed?, h]
      | vec3 _ => exact ⟨t, rfl⟩
      | vec4 _ => exact ⟨t, rfl⟩

/-- Operands fill the cells and modifiers the rest, so neither gets in the way of the other. -/
lemma after_comm (t : Tex0Draft) (v : Operand) (m : Modifier) :
    ((tex0 t).after (.operand v)).after (.modifier m)
      = ((tex0 t).after (.modifier m)).after (.operand v) := by
  rw [after_tex0_modifier]
  obtain ⟨base, bufferWidth, widthLog, heightLog, pixelFormat, function⟩ := t
  cases v with
  | scalar c =>
      cases base <;> cases bufferWidth <;> cases widthLog <;> cases heightLog <;>
        exact after_tex0_modifier _ m
  | vec2 size => cases widthLog <;> cases heightLog <;> exact after_tex0_modifier _ m
  | vec3 _ => exact after_tex0_modifier _ m
  | vec4 _ => exact after_tex0_modifier _ m

lemma afterAll_operands_comm (t : Tex0Draft) (m : Modifier) (operands : List Operand) :
    ((tex0 t).after (.modifier m)).afterAll (operands.map .operand)
      = ((tex0 t).afterAll (operands.map .operand)).after (.modifier m) := by
  induction operands generalizing t with
  | nil => rfl
  | cons v operands ih =>
      obtain ⟨t', ht'⟩ := exists_after_tex0 t (.operand v)
      rw [List.map_cons, afterAll_cons, afterAll_cons, ← after_comm, ht', ih]

/-- **A run of offers is that of its operands, followed by its modifiers.** -/
lemma afterAll_sorted (t : Tex0Draft) (offers : List Argument) :
    (tex0 t).afterAll offers
      = ((tex0 t).afterAll ((offers.filterMap Argument.operand?).map .operand)).afterAll
          ((offers.filterMap Argument.modifier?).map .modifier) := by
  induction offers generalizing t with
  | nil => rfl
  | cons a offers ih =>
      obtain ⟨t', ht'⟩ := exists_after_tex0 t a
      rw [afterAll_cons, ht', ih]
      cases a with
      | operand v =>
          rw [← ht']
          rfl
      | modifier m =>
          rw [← ht', afterAll_operands_comm]
          rfl

end Draft

/-- **Filling the texture register, in closed form.**  After any offers, whether they were taken or
not, let the parts be those that were taken.  A scalar is taken exactly if there are less than four
cells, counting two for a pair; a pair exactly if there is none yet and there are two scalars at
most; nothing longer ever; and of the modifiers exactly those for a pixel format or a texture
function.  The register is ready exactly if it has four cells and a pixel format, stays ready from
then on, and completes to its cells — the scalars, then the pair — with the last pixel format and
the last function, which is decal unless there is one.  The same offers with modifiers and operands
mixed in another way lead to the same register, and so do those that were taken. -/
theorem Draft.afterAll_tex0 (offers : List Argument) :
    let d := (Draft.empty .tex0).afterAll offers
    let taken := (Draft.empty .tex0).taken offers
    let parts := TextureParts.of taken
    (∀ c, (∃ d', d.push (.scalar c) = .ok d') ↔
      parts.scalars.length + 2 * parts.sizes.length < 4) ∧
    (∀ v, (∃ d', d.push (.vec2 v) = .ok d') ↔ parts.sizes = [] ∧ parts.scalars.length ≤ 2) ∧
    (∀ v, ¬ ∃ d', d.push (.vec3 v) = .ok d') ∧
    (∀ v, ¬ ∃ d', d.push (.vec4 v) = .ok d') ∧
    (∀ m, (∃ d', d.apply m = .ok d') ↔ (∃ format ∈ PixelFormat.all, m = .ofPixelFormat format) ∨
      ∃ function ∈ TextureFunction.all, m = .ofTextureFunction function) ∧
    (d.ready = true ↔
      parts.scalars.length + 2 * parts.sizes.length = 4 ∧ parts.formats ≠ []) ∧
    (d.ready = true → ∀ more, (d.afterAll more).ready = true) ∧
    (∀ w, d.complete? = some w ↔ ∃ t : Tex0, w = .tex0 t ∧
      parts.cells = [t.base, t.bufferWidth, t.widthLog, t.heightLog] ∧
      parts.formats.getLast? = some t.pixelFormat ∧
      t.function = parts.functions.getLast?.getD .decal ∧ t.useAlpha = false) ∧
    (∀ offers' : List Argument,
      offers'.filterMap Argument.operand? = offers.filterMap Argument.operand? →
      offers'.filterMap Argument.modifier? = offers.filterMap Argument.modifier? →
      (Draft.empty .tex0).afterAll offers' = d) ∧
    (Draft.empty .tex0).afterAll taken = d ∧ (Draft.empty .tex0).taken taken = taken := by
  intro d taken parts
  have hstart : (TextureParts.of []).Fitting := .single (Nat.zero_le 4)
  obtain ⟨hfitting, hd⟩ : parts.Fitting ∧ d = .tex0 parts.draft := TextureParts.run hstart offers
  have hoffer : ∀ a, (∃ d', d.offer a = .ok d') ↔ parts.Accepts a := by
    intro a
    simp only [offer_eq_ok_iff, hd]
    rcases TextureParts.step hfitting a with ⟨haccepts, -, htake⟩ | ⟨hrefuses, htake⟩
    · exact iff_of_true ⟨_, htake⟩ haccepts
    · refine iff_of_false ?_ hrefuses
      rintro ⟨d', hd'⟩
      exact Option.some_ne_none d' (hd'.symm.trans htake)
  have hready : d.ready = true ↔ parts.filled = 4 ∧ parts.formats ≠ [] := by
    rw [hd]
    exact TextureParts.ready_draft_iff hfitting
  refine ⟨fun c => hoffer (.operand (.scalar c)), fun v => hoffer (.operand (.vec2 v)),
    fun v => (hoffer (.operand (.vec3 v))).not.mpr id,
    fun v => (hoffer (.operand (.vec4 v))).not.mpr id, fun m => hoffer (.modifier m), hready,
    ?_, ?_, ?_, afterAll_taken _ offers, taken_taken _ offers⟩
  · intro hd_ready more
    obtain ⟨hfitting', hmore⟩ := TextureParts.run hfitting more
    rw [hd, hmore, TextureParts.ready_draft_iff hfitting']
    exact TextureParts.filled_of_append hfitting' (hready.mp hd_ready)
  · intro w
    rw [hd, complete?, Option.map_eq_some_iff]
    constructor
    · rintro ⟨t, ht, rfl⟩
      exact ⟨t, rfl, (TextureParts.complete?_draft_eq_some_iff hfitting t).mp ht⟩
    · rintro ⟨t, rfl, ht⟩
      exact ⟨t, (TextureParts.complete?_draft_eq_some_iff hfitting t).mpr ht, rfl⟩
  · intro offers' hoperands hmodifiers
    have hsorted : d = _ := afterAll_sorted {} offers
    have hsorted' : (Draft.empty .tex0).afterAll offers' = _ := afterAll_sorted {} offers'
    rw [hsorted', hsorted, hoperands, hmodifiers]

/-- The pair comes first, the cells and settings are mixed, and three offers are refused. -/
def Argument.crossed : List Argument :=
  [.operand (.vec2 ⟨8, 9⟩), .modifier .gouraud, .operand (.scalar 1),
    .modifier (.ofPixelFormat ⟨1⟩), .operand (.vec2 ⟨6, 7⟩), .operand (.scalar 2),
    .operand (.scalar 3), .modifier (.ofPixelFormat ⟨2⟩)]

theorem Draft.afterAll_tex0_crossed :
    ((Draft.empty .tex0).afterAll Argument.crossed).ready = true ∧
      (∀ more, (((Draft.empty .tex0).afterAll Argument.crossed).afterAll more).ready = true) ∧
      ((Draft.empty .tex0).afterAll Argument.crossed).complete?
        = some (.tex0 ⟨1, 2, ⟨2⟩, 8, 9, false, .decal⟩) := by
  have hready : ((Draft.empty .tex0).afterAll Argument.crossed).ready = true := by decide
  obtain ⟨-, -, -, -, -, -, hstays, hcomplete, -⟩ := afterAll_tex0 Argument.crossed
  exact ⟨hready, hstays hready,
    (hcomplete _).mpr ⟨_, rfl, by decide, by decide, by decide, rfl⟩⟩

end RegisterScript
