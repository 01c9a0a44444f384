import Mathlib.Data.Bool.AllAny
import Mathlib.Data.List.Find
import Mathlib.Tactic
import RegisterScript.Modifier
import RegisterScript.Register

/-!
# Looking up names

Registers and modifiers are looked up by name, in any letter case.  The names are kept in a table,
and the first entry that fits is taken.  This file shows that "first" does not matter: at most one
entry fits, whatever the text, so the table can be searched in any order.

**Folding.**  `Text.foldCase` knows the characters that fold into ASCII and no others.
`Text.SimpleFolding` is any folding of all characters that agrees with the character database on
those.  Against an ASCII name they all decide the same (`SimpleFolding.same_eq_same`), so what is
shown holds of the folding of the whole character database.

**Tables.**  In a table of ASCII names no two of which fold alike (`NameTable`), a text finds the
same entry in every order (`NameTable.lookUp_of_perm`), and an entry is found by its own name
(`NameTable.lookUp_of_same`).
-/

namespace RegisterScript

namespace Text

/-- A simple case folding: every character folds to a single one.  Of what lies beyond ASCII it is
laid down only which characters fold into ASCII, the long s and the Kelvin sign. -/
structure SimpleFolding where
  fold : Char → Char
  ascii : ∀ c : Char, c.toNat < 0x80 → fold c = c.toLower
  longS : fold '\u017F' = 's'
  kelvin : fold '\u212A' = 'k'
  beyond : ∀ c : Char, 0x80 ≤ c.toNat → c ≠ '\u017F' → c ≠ '\u212A' → 0x80 ≤ (fold c).toNat

namespace SimpleFolding

/-- Whether two texts are equal up to letter case. -/
def same (f : SimpleFolding) (name text : String) : Bool :=
  name.toList.map f.fold == text.toList.map f.fold

/-- What stands in a table beside the first name that is equal to the text up to letter case. -/
def lookUp {α : Type} (f : SimpleFolding) (table : List (α × String)) (text : String) : Option α :=
  (table.find? fun entry => f.same entry.2 text).map Prod.fst

lemma same_iff (f : SimpleFolding) (name text : String) :
    f.same name text = true ↔ name.toList.map f.fold = text.toList.map f.fold := by
  simp [same]

/-! ## Foldings agree on ASCII -/

lemma toNat_toLower (c : Char) :
    c.toLower.toNat = if 65 ≤ c.toNat ∧ c.toNat ≤ 90 then c.toNat + 32 else c.toNat := by
  delta Char.toLower
  split
  · rename_i h
    have hrange : 65 ≤ c.toNat ∧ c.toNat ≤ 90 := by
      simpa [UInt32.le_iff_toNat_le] using h
    rw [if_pos hrange]
    change (c.val + ('a'.val - 'A'.val)).toNat = _
    rw [UInt32.toNat_add]
    change (c.toNat + 32) % 4294967296 = _
    omega
  · rename_i h
    rw [if_neg]
    simpa [UInt32.le_iff_toNat_le] using h

/-- The folding that leaves alone all that does not fold into ASCII. -/
def least : SimpleFolding where
  fold := foldCase
  ascii := by
    intro c hc
    rw [foldCase, if_neg (by omega), if_neg (by omega)]
  longS := by decide
  kelvin := by decide
  beyond := by
    intro c hc hlongS hkelvin
    have hne : c.toNat ≠ 0x17F ∧ c.toNat ≠ 0x212A := by
      constructor
      · exact fun h => hlongS (Char.toNat_inj.mp h)
      · exact fun h => hkelvin (Char.toNat_inj.mp h)
    rw [foldCase, if_neg hne.1, if_neg hne.2, toNat_toLower, if_neg (by omega)]
    exact hc

/-- **Two foldings agree on what is an ASCII character up to case.** -/
lemma fold_eq_fold_iff (f g : SimpleFolding) {a : Char} (ha : a.toNat < 0x80) (c : Char) :
    f.fold a = f.fold c ↔ g.fold a = g.fold c := by
  rw [f.ascii a ha, g.ascii a ha]
  by_cases hc : c.toNat < 0x80
  · rw [f.ascii c hc, g.ascii c hc]
  by_cases hlongS : c = '\u017F'
  · rw [hlongS, f.longS, g.longS]
  by_cases hkelvin : c = '\u212A'
  · rw [hkelvin, f.kelvin, g.kelvin]
  have hlow : a.toLower.toNat < 0x80 := by
    rw [toNat_toLower]
    split <;> omega
  have hf := f.beyond c (by omega) hlongS hkelvin
  have hg := g.beyond c (by omega) hlongS hkelvin
  refine iff_of_false ?_ ?_
  · intro h
    rw [h] at hlow
    omega
  · intro h
    rw [h] at hlow
    omega

lemma map_fold_eq_iff (f g : SimpleFolding) {name : List Char} (hname : ∀ c ∈ name, c.toNat < 0x80)
    (text : List Char) :
    name.map f.fold = text.map f.fold ↔ name.map g.fold = text.map g.fold := by
  induction name generalizing text with
  | nil => cases text <;> simp
  | cons a name ih =>
      obtain ⟨ha, hname⟩ := List.forall_mem_cons.mp hname
      cases text with
      | nil => simp
      | cons c text =>
          simp only [List.map_cons, List.cons.injEq]
          rw [f.fold_eq_fold_iff g ha, ih hname]

/-- Against an ASCII name all foldings decide the same. -/
lemma same_eq_same (f g : SimpleFolding) {name : String} (hname : ∀ c ∈ name.toList, c.toNat < 0x80)
    (text : String) : f.same name text = g.same name text := by
  rw [Bool.eq_iff_iff, same_iff, same_iff]
  exact f.map_fold_eq_iff g hname text.toList

end SimpleFolding

end Text

open Text (SimpleFolding)

/-! ## Tables -/

/-- A table of ASCII names, no two of which are equal up to letter case. -/
structure NameTable {α : Type} (table : List (α × String)) : Prop where
  ascii : ∀ entry ∈ table, ∀ c ∈ entry.2.toList, c.toNat < 0x80
  nodup : (table.map fun entry => entry.2.toList.map Text.foldCase).Nodup

namespace NameTable

variable {α : Type} {table table' : List (α × String)}

/-- At most one entry fits. -/
lemma eq_of_same (h : NameTable table) {f : SimpleFolding} {text : String} {a b : α × String}
    (ha : a ∈ table) (hb : b ∈ table) (hsame : f.same a.2 text = true)
    (hsame' : f.same b.2 text = true) : a = b := by
  have hfold : a.2.toList.map f.fold = b.2.toList.map f.fold :=
    ((f.same_iff _ _).mp hsame).trans ((f.same_iff _ _).mp hsame').symm
  have hleast := (f.map_fold_eq_iff .least (h.ascii a ha) _).mp hfold
  exact List.inj_on_of_nodup_map h.nodup ha hb hleast

/-- **The order of the table does not matter**, nor which folding is used. -/
lemma lookUp_of_perm (h : NameTable table) (hperm : table'.Perm table) (f : SimpleFolding)
    (text : String) : f.lookUp table' text = SimpleFolding.least.lookUp table text := by
  have hfind : (table'.find? fun entry => f.same entry.2 text)
      = table.find? fun entry => f.same entry.2 text := by
    refine List.find?_eq_find?_of_perm hperm ?_
    rintro a ⟨ha, hsame⟩ b ⟨hb, hsame'⟩
    exact h.eq_of_same (hperm.subset ha) (hperm.subset hb) hsame hsame'
  have hfold : (table.find? fun entry => f.same entry.2 text)
      = table.find? fun entry => SimpleFolding.least.same entry.2 text :=
    List.find?_congr fun entry hentry => f.same_eq_same .least (h.ascii entry hentry) text
  rw [SimpleFolding.lookUp, hfind, hfold, SimpleFolding.lookUp]

/-- An entry is found by whatever is equal to its name. -/
lemma lookUp_of_same (h : NameTable table) {f : SimpleFolding} {text : String} {entry : α × String}
    (hentry : entry ∈ table) (hsame : f.same entry.2 text = true) :
    f.lookUp table text = some entry.1 := by
  obtain ⟨found, hfound⟩ :
      ∃ found, (table.find? fun entry => f.same entry.2 text) = some found := by
    rw [← Option.isSome_iff_exists, List.find?_isSome]
    exact ⟨entry, hentry, hsame⟩
  have hfits : f.same found.2 text = true :=
    List.find?_some (p := fun entry : α × String => f.same entry.2 text) hfound
  have heq : found = entry :=
    h.eq_of_same (List.mem_of_find?_eq_some hfound) hentry hfits hsame
  rw [SimpleFolding.lookUp, hfound, heq, Option.map_some]

end NameTable

/-- The registers with their names. -/
def Register.table : List (Register × String) := all.map fun r => (r, r.name)

lemma Register.nameTable : NameTable Register.table where
  ascii entry hentry := by
    -- Decided along the texts: there are too many characters to go through all of them.
    have hall : ∀ entry ∈ Register.table, entry.2.toList.all (·.toNat < 0x80) := by decide
    exact List.all_iff_forall_prop.mp (hall entry hentry)
  nodup := by decide +kernel

lemma Modifier.nameTable : NameTable Modifier.table where
  ascii entry hentry := by
    have hall : ∀ entry ∈ Modifier.table, entry.2.toList.all (·.toNat < 0x80) := by decide
    exact List.all_iff_forall_prop.mp (hall entry hentry)
  nodup := by decide +kernel

lemma Register.mem_table (r : Register) : (r, r.name) ∈ Register.table := by
  cases r <;> decide

lemma Register.ofName?_eq_lookUp (text : String) :
    Register.ofName? text = SimpleFolding.least.lookUp Register.table text := by
  rw [SimpleFolding.lookUp, Register.table, List.find?_map, Option.map_map]
  exact Option.map_id'.symm

lemma Register.addressName_address (r : Register) : addressName r.address = r.name := by
  cases r <;> decide

/-- A modifier of the table is printed by its name, which is not the second name of a texture. -/
lemma Modifier.name_of_mem_table : ∀ entry ∈ Modifier.table, entry.1.name = entry.2 ∧
    entry.2.toList.map Text.foldCase ≠ "textured".toList.map Text.foldCase := by
  decide +kernel

lemma Modifier.textured_ascii : ∀ c ∈ "textured".toList, c.toNat < 0x80 :=
  List.all_iff_forall_prop.mp (by decide)

/-- **Looking up a name is a function of the text alone.**  In whatever order the tables are
searched, and whatever the folding does beyond ASCII, a text finds the same register and the same
modifier, and the name of each of them finds it in any letter case. -/
theorem lookUp_any_order (f : SimpleFolding) (text : String)
    {registers : List (Register × String)} (hregisters : registers.Perm Register.table)
    {modifiers : List (Modifier × String)} (hmodifiers : modifiers.Perm Modifier.table) :
    f.lookUp registers text = Register.ofName? text ∧
    (if f.same "textured" text then some Modifier.texture else f.lookUp modifiers text)
      = Modifier.ofName? text ∧
    (∀ r : Register, f.same (addressName r.address) text = true →
      Register.ofName? text = some r) ∧
    ∀ entry ∈ Modifier.table, f.same entry.1.name text = true →
      Modifier.ofName? text = some entry.1 := by
  have htextured : f.same "textured" text = Text.sameName "textured" text :=
    f.same_eq_same .least Modifier.textured_ascii text
  have hmodifier : Modifier.ofName? text =
      if f.same "textured" text then some Modifier.texture else f.lookUp Modifier.table text := by
    rw [htextured, Modifier.nameTable.lookUp_of_perm (.refl _)]
    rfl
  refine ⟨?_, ?_, ?_, ?_⟩
  · rw [Register.nameTable.lookUp_of_perm hregisters, Register.ofName?_eq_lookUp]
  · rw [hmodifier, Modifier.nameTable.lookUp_of_perm hmodifiers,
      ← Modifier.nameTable.lookUp_of_perm (.refl _) f]
  · intro r hsame
    rw [r.addressName_address] at hsame
    rw [Register.ofName?_eq_lookUp, ← Register.nameTable.lookUp_of_perm (.refl _) f]
    exact Register.nameTable.lookUp_of_same r.mem_table hsame
  · intro entry hentry hsame
    obtain ⟨hname, hother⟩ := Modifier.name_of_mem_table entry hentry
    rw [hname] at hsame
    have hnot : f.same "textured" text = false := by
      rw [Bool.eq_false_iff]
      intro h
      have hfold := ((f.same_iff _ _).mp hsame).trans ((f.same_iff _ _).mp h).symm
      exact hother
        ((f.map_fold_eq_iff .least (Modifier.nameTable.ascii entry hentry) _).mp hfold)
    rw [hmodifier, hnot]
    exact Modifier.nameTable.lookUp_of_same hentry hsame

/-- Searched from its end, the table still has one register for a name with two long s. -/
theorem lookUp_any_order_longS :
    Register.table.reverse.Perm Register.table ∧ Modifier.table.reverse.Perm Modifier.table ∧
      SimpleFolding.least.same (addressName Register.scissor.address) "\u017FciS\u017FoR" = true ∧
      SimpleFolding.least.lookUp Register.table.reverse "\u017FciS\u017FoR" = some .scissor := by
  have hsame : SimpleFolding.least.same (addressName Register.scissor.address)
      "\u017FciS\u017FoR" = true := by decide +kernel
  obtain ⟨hlookUp, -, hregister, -⟩ := lookUp_any_order .least "\u017FciS\u017FoR"
    (List.reverse_perm Register.table) (List.reverse_perm Modifier.table)
  exact ⟨List.reverse_perm _, List.reverse_perm _, hsame, hlookUp.trans (hregister _ hsame)⟩

end RegisterScript
