import RegisterScript.Proofs.Emission
import RegisterScript.Proofs.Reading
import RegisterScript.Proofs.Rebuilding
import RegisterScript.Proofs.TaskGroup

/-!
# Several scripts

Several files are compiled at the same time and written together.  Whether that succeeds, and what
is written, does not depend on which of them is done first.

**Files.**  `Disk.Compiles` is said of one file, whatever else is compiled; `Disk.CompilesApart` of
all of them, and no block may be defined in two of them.  Macros are not mentioned: every file has
its own.

**Writing.**  Only if all files have compiled, their blocks are compared
(`findDuplicate_eq_none_iff`), and only if no two of them have the same name, the first byte is
written (`writeFiles_of_disjoint`, `writeFiles_of_shared`).
-/

namespace RegisterScript

/-! ## Files -/

/-- The file at a name compiles, on its own, to these blocks. -/
def Disk.Compiles (d : Disk) (passes : Passes) (name : String) (bs : List Block) : Prop :=
  ∃ contents, d.readFile name = .ok contents ∧
    (compile passes false (.ofBytes name contents .complete)).result = .ok bs

/-- Every file compiles on its own, and no block is defined at two places of the list. -/
structure Disk.CompilesApart (d : Disk) (passes : Passes) (names : List String)
    (files : List (List Block)) : Prop where
  compiles : List.Forall₂ (d.Compiles passes) names files
  disjoint : files.Pairwise fun as bs => List.Disjoint (as.map Block.name) (bs.map Block.name)

section Files

variable {d : Disk} {passes : Passes} {name : String} {names : List String}
  {files : List (List Block)}

lemma Disk.opened_input {contents : Bytes} (h : d.readFile name = .ok contents) :
    (d.input name).opened = .ok (.ofBytes name contents .complete) := by
  cases hfind : d.find "open" name with
  | error e => simp [readFile, hfind, bind, Except.bind] at h
  | ok found =>
      obtain ⟨path, node⟩ := found
      cases node with
      | directory =>
          simp [readFile, hfind, bind, Except.bind, Node.read] at h
      | file bytes =>
          obtain rfl : bytes = contents := by
            simpa [readFile, hfind, bind, Except.bind, Node.read, pure, Except.pure] using h
          simp [input, hfind, Except.map, Node.read]

lemma Disk.compiles_iff {contents : Bytes} (h : d.readFile name = .ok contents) {bs : List Block} :
    d.Compiles passes name bs ↔ ((d.input name).compile passes false).result = .ok bs := by
  rw [Input.compile, d.opened_input h]
  constructor
  · rintro ⟨contents', hread, hcompile⟩
    obtain rfl : contents' = contents := Except.ok.inj (hread.symm.trans h)
    exact hcompile
  · exact fun hcompile => ⟨contents, h, hcompile⟩

/-- All files compile exactly if all results are blocks. -/
lemma Disk.forall₂_compiles_iff
    (hreadable : ∀ name ∈ names, ∃ contents, d.readFile name = .ok contents) :
    List.Forall₂ (d.Compiles passes) names files ↔
      resultsOf passes (names.map d.input) = files.map .ok := by
  induction names generalizing files with
  | nil => cases files <;> simp [resultsOf]
  | cons name names ih =>
      obtain ⟨⟨contents, hread⟩, hreadable⟩ := List.forall_mem_cons.mp hreadable
      cases files with
      | nil => simp [resultsOf]
      | cons bs files =>
          rw [List.forall₂_cons, ih hreadable, d.compiles_iff hread]
          simp [resultsOf]

lemma Disk.Compiles.nodup {bs : List Block} (h : d.Compiles passes name bs) :
    (bs.map Block.name).Nodup := by
  obtain ⟨contents, -, hcompile⟩ := h
  obtain ⟨-, ⟨m, hrun⟩, -⟩ := compile_eq_ok_iff.mp hcompile
  exact nodup_names_of_run hrun

end Files

/-! ## Faults -/

lemma findSome?_faultOf_eq_none_iff {results : List (Except Fault (List Block))} :
    results.findSome? faultOf = none ↔ ∃ files : List (List Block), results = files.map .ok := by
  induction results with
  | nil => exact iff_of_true rfl ⟨[], rfl⟩
  | cons result results ih =>
      cases result with
      | error f =>
          refine iff_of_false (by simp [faultOf]) ?_
          rintro ⟨_ | ⟨bs, files⟩, hfiles⟩ <;> simp at hfiles
      | ok bs =>
          rw [List.findSome?_cons, faultOf, ih]
          constructor
          · rintro ⟨files, rfl⟩
            exact ⟨bs :: files, rfl⟩
          · rintro ⟨_ | ⟨bs', files⟩, hfiles⟩
            · cases hfiles
            · exact ⟨files, (List.cons.inj hfiles).2⟩

lemma firstFault_map_ok (files : List (List Block)) (finishing : List Nat) :
    firstFault (files.map .ok) finishing = none := by
  rw [firstFault, List.findSome?_eq_none_iff]
  intro i _
  rw [List.getElem?_map]
  cases files[i]? <;> rfl

section Compiled

variable {config : Config} {inputs : List Input} {files : List (List Block)}

lemma compileAll_of_compiled (h : resultsOf config.passes inputs = files.map .ok)
    (finishing : List Nat) (out : Output) :
    ((compileAll config false inputs finishing out).1.result,
        (compileAll config false inputs finishing out).2)
      = writeFiles config (inputs.map Input.name) files out := by
  have hnone := findSome?_faultOf_eq_none_iff.mpr ⟨files, rfl⟩
  rw [compileAll_eq, h, firstFault_map_ok, hnone, List.map_map]
  simp [Function.comp_def, Except.toOption]

lemma compileAll_of_uncompiled
    (h : ¬ ∃ files : List (List Block), resultsOf config.passes inputs = files.map .ok)
    (finishing : List Nat) (out : Output) :
    ∃ f, (compileAll config false inputs finishing out).1.result = .error f ∧
      (compileAll config false inputs finishing out).2 = out := by
  have hne := mt findSome?_faultOf_eq_none_iff.mp h
  have heq := compileAll_eq config inputs finishing out
  cases hfirst : (firstFault (resultsOf config.passes inputs) finishing
      <|> (resultsOf config.passes inputs).findSome? faultOf) with
  | some f =>
      rw [hfirst] at heq
      exact ⟨f, Prod.mk.inj heq⟩
  | none =>
      rw [Option.orElse_eq_orElse, Option.orElse_eq_or, Option.or_eq_none_iff] at hfirst
      exact absurd hfirst.2 hne

end Compiled

/-! ## Writing -/

/-- Nothing is found exactly if no name repeats. -/
lemma findDuplicate_eq_none_iff {seen defined : List (String × String)} :
    findDuplicate seen defined = none ↔
      (defined.map Prod.snd).Nodup ∧ ∀ block ∈ defined.map Prod.snd, block ∉ seen.map Prod.fst := by
  induction defined generalizing seen with
  | nil => simp [findDuplicate]
  | cons entry rest ih =>
      obtain ⟨file, block⟩ := entry
      have hlookup : seen.lookup block = none ↔ block ∉ seen.map Prod.fst := by
        rw [List.lookup_eq_none_iff]
        simp only [bne_iff_ne, List.mem_map, not_exists, not_and]
        exact ⟨fun h p hp heq => h p hp heq.symm, fun h p hp heq => h p hp heq.symm⟩
      rw [findDuplicate]
      cases hseen : seen.lookup block with
      | some other =>
          rw [hseen] at hlookup
          simp_all
      | none =>
          have hfresh := hlookup.mp hseen
          rw [ih, List.map_cons, List.map_cons, List.nodup_cons, List.forall_mem_cons]
          constructor
          · rintro ⟨hnodup, hnew⟩
            exact ⟨⟨fun hmem => hnew block hmem List.mem_cons_self, hnodup⟩, hfresh,
              fun other hother hmem => hnew other hother (List.mem_cons_of_mem _ hmem)⟩
          · rintro ⟨⟨hblock, hnodup⟩, -, hnew⟩
            refine ⟨hnodup, fun other hother hmem => ?_⟩
            rcases List.mem_cons.mp hmem with rfl | hmem
            · exact hblock hother
            · exact hnew other hother hmem

section Writing

variable {names : List String} {files : List (List Block)}

/-- The names that are compared are those of all blocks, in order. -/
lemma map_snd_defined (hlength : names.length = files.length) :
    ((names.zip files).flatMap fun f => f.2.map fun b => (f.1, b.name)).map Prod.snd
      = files.flatten.map Block.name := by
  have hzip : (names.zip files).map Prod.snd = files := List.map_snd_zip hlength.ge
  conv_rhs => rw [← hzip]
  simp only [List.flatMap, List.map_flatten, List.map_map, Function.comp_def]

lemma findDuplicate_eq_none_iff_disjoint (hlength : names.length = files.length)
    (hnodup : ∀ bs ∈ files, (bs.map Block.name).Nodup) :
    findDuplicate [] ((names.zip files).flatMap fun f => f.2.map fun b => (f.1, b.name)) = none ↔
      files.Pairwise fun as bs => List.Disjoint (as.map Block.name) (bs.map Block.name) := by
  rw [findDuplicate_eq_none_iff, map_snd_defined hlength, List.map_flatten, List.nodup_flatten,
    List.pairwise_map]
  exact ⟨fun h => h.1.2, fun h => ⟨⟨List.forall_mem_map.mpr hnodup, h⟩, by simp⟩⟩

lemma writeFiles_of_disjoint (hlength : names.length = files.length)
    (hnodup : ∀ bs ∈ files, (bs.map Block.name).Nodup)
    (h : files.Pairwise fun as bs => List.Disjoint (as.map Block.name) (bs.map Block.name))
    (config : Config) (out : Output) :
    writeFiles config names files out
      = ((emitBlocks config files.flatten out).1.result,
        (emitBlocks config files.flatten out).2) := by
  rw [writeFiles, (findDuplicate_eq_none_iff_disjoint hlength hnodup).mpr h]

lemma writeFiles_of_shared (hlength : names.length = files.length)
    (hnodup : ∀ bs ∈ files, (bs.map Block.name).Nodup)
    (h : ¬ files.Pairwise fun as bs => List.Disjoint (as.map Block.name) (bs.map Block.name))
    (config : Config) (out : Output) :
    ∃ f, writeFiles config names files out = (.error f, out) := by
  obtain ⟨f, hf⟩ := Option.ne_none_iff_exists'.mp
    (mt (findDuplicate_eq_none_iff_disjoint hlength hnodup).mp h)
  exact ⟨f, by rw [writeFiles, hf]⟩

end Writing

lemma emitBlocks_eq_ok_iff_exists {config : Config} {bs : List Block} {written : List String}
    {out out' : Output} :
    ((emitBlocks config bs out).1.result = .ok written ∧ (emitBlocks config bs out).2 = out') ↔
      bs.map Block.name = written ∧
        ∃ format g, config.target.format config.mode = .ok format ∧
          Emitter.generate.emitAll ({ format := format }, out) bs = some (g, out') := by
  cases hformat : config.target.format config.mode with
  | error f => simp [emitBlocks, hformat]
  | ok format => simp [emitBlocks_eq_ok_iff hformat]

/-! ## Files and tasks -/

section Disk

variable {config : Config} {d : Disk} {names : List String} {files : List (List Block)}

lemma nodup_of_forall₂_compiles {passes : Passes}
    (h : List.Forall₂ (d.Compiles passes) names files) :
    ∀ bs ∈ files, (bs.map Block.name).Nodup := by
  induction h with
  | nil => simp
  | cons hbs _ ih => exact List.forall_mem_cons.mpr ⟨hbs.nodup, ih⟩

lemma Disk.map_name_input (d : Disk) (names : List String) :
    (names.map d.input).map Input.name = names := by
  rw [List.map_map]
  exact List.map_id names

/-- Once all files have compiled, there is nothing left but to write them. -/
lemma compileAll_of_forall₂_compiles
    (hreadable : ∀ name ∈ names, ∃ contents, d.readFile name = .ok contents)
    (h : List.Forall₂ (d.Compiles config.passes) names files) (finishing : List Nat)
    (out : Output) :
    ((compileAll config false (names.map d.input) finishing out).1.result,
        (compileAll config false (names.map d.input) finishing out).2)
      = writeFiles config names files out := by
  rw [compileAll_of_compiled ((Disk.forall₂_compiles_iff hreadable).mp h), d.map_name_input]

/-- **Files that compile and share no block** are written as their blocks one after the other. -/
lemma compileAll_of_compilesApart
    (hreadable : ∀ name ∈ names, ∃ contents, d.readFile name = .ok contents)
    (h : d.CompilesApart config.passes names files) (finishing : List Nat)
    (out : Output) :
    (compileAll config false (names.map d.input) finishing out).1.result
        = (emitBlocks config files.flatten out).1.result ∧
      (compileAll config false (names.map d.input) finishing out).2
        = (emitBlocks config files.flatten out).2 := by
  have hwritten := compileAll_of_forall₂_compiles hreadable h.compiles finishing out
  rw [writeFiles_of_disjoint h.compiles.length_eq (nodup_of_forall₂_compiles h.compiles)
    h.disjoint] at hwritten
  exact Prod.mk.inj hwritten

/-- **Any other files** are refused, and nothing is written. -/
lemma compileAll_of_not_compilesApart
    (hreadable : ∀ name ∈ names, ∃ contents, d.readFile name = .ok contents)
    (h : ¬ ∃ files, d.CompilesApart config.passes names files) (finishing : List Nat)
    (out : Output) :
    ∃ f, (compileAll config false (names.map d.input) finishing out).1.result = .error f ∧
      (compileAll config false (names.map d.input) finishing out).2 = out := by
  by_cases hall : ∃ files, List.Forall₂ (d.Compiles config.passes) names files
  · obtain ⟨files, hfiles⟩ := hall
    have hshared : ¬ files.Pairwise fun as bs =>
        List.Disjoint (as.map Block.name) (bs.map Block.name) :=
      fun hdisjoint => h ⟨files, hfiles, hdisjoint⟩
    have hwritten := compileAll_of_forall₂_compiles hreadable hfiles finishing out
    obtain ⟨f, hf⟩ := writeFiles_of_shared hfiles.length_eq (nodup_of_forall₂_compiles hfiles)
      hshared config out
    exact ⟨f, Prod.mk.inj (hwritten.trans hf)⟩
  · refine compileAll_of_uncompiled ?_ finishing out
    rintro ⟨files, hfiles⟩
    exact hall ⟨files, (Disk.forall₂_compiles_iff hreadable).mpr hfiles⟩

end Disk

/-- **Several files.**  Whatever turns the tasks take, all of them together give the answer of
`compileAll` for the order in which they have finished, and every order is possible.  The order does
not decide whether it is a success: that it is exactly if each file compiles on its own, no block is
defined at two places of the list, and the generator accepts all blocks, file by file as they were
named.  Then the names of the blocks are reported in that order, and the output is the generator's.
If some file does not compile or some block is defined twice, the output stays as it is.  In all
other cases the blocks are written as those of one file would be, whatever macros there are. -/
theorem compileAll_files (config : Config) (d : Disk) (names : List String)
    (hreadable : ∀ name ∈ names, ∃ contents, d.readFile name = .ok contents) (out : Output) :
    (∀ g, TaskGroup.Runs config.passes (names.map d.input) g → g.Joined →
      g.join config names out =
        ((compileAll config false (names.map d.input) g.finishing out).1.result,
          (compileAll config false (names.map d.input) g.finishing out).2)) ∧
    (∀ order : List Nat, order.Perm (List.range names.length) →
      ∃ g, TaskGroup.Runs config.passes (names.map d.input) g ∧ g.Joined ∧ g.finishing = order) ∧
    ∀ finishing,
      let ran := compileAll config false (names.map d.input) finishing out
      (∀ written out', (ran.1.result = .ok written ∧ ran.2 = out') ↔
        ∃ files, d.CompilesApart config.passes names files ∧
          written = files.flatMap (List.map Block.name) ∧
          ∃ format g, config.target.format config.mode = .ok format ∧
            Emitter.generate.emitAll ({ format := format }, out) files.flatten = some (g, out')) ∧
      ((¬ ∃ files, d.CompilesApart config.passes names files) → ran.2 = out) ∧
      ∀ files, d.CompilesApart config.passes names files →
        ran.1.result = (emitBlocks config files.flatten out).1.result ∧
          ran.2 = (emitBlocks config files.flatten out).2 := by
  refine ⟨fun g hruns hjoined => ?_, fun order horder => ?_, fun finishing => ⟨?_, ?_, ?_⟩⟩
  · have hjoin := TaskGroup.join_eq_compileAll hruns hjoined out
    rwa [d.map_name_input] at hjoin
  · exact TaskGroup.exists_runs config.passes (by rwa [List.length_map])
  · intro written out'
    constructor
    · rintro ⟨hresult, hout⟩
      by_cases hapart : ∃ files, d.CompilesApart config.passes names files
      · obtain ⟨files, hfiles⟩ := hapart
        obtain ⟨hsame, hsame'⟩ := compileAll_of_compilesApart hreadable hfiles finishing out
        obtain ⟨hnames, hall⟩ := emitBlocks_eq_ok_iff_exists.mp
          ⟨hsame.symm.trans hresult, hsame'.symm.trans hout⟩
        exact ⟨files, hfiles, by rw [← hnames, List.map_flatten, List.flatMap], hall⟩
      · obtain ⟨f, hf, -⟩ := compileAll_of_not_compilesApart hreadable hapart finishing out
        rw [hf] at hresult
        cases hresult
    · rintro ⟨files, hfiles, rfl, hall⟩
      obtain ⟨hsame, hsame'⟩ := compileAll_of_compilesApart hreadable hfiles finishing out
      rw [hsame, hsame', emitBlocks_eq_ok_iff_exists]
      exact ⟨by rw [List.map_flatten, List.flatMap], hall⟩
  · intro hapart
    obtain ⟨f, -, hout⟩ := compileAll_of_not_compilesApart hreadable hapart finishing out
    exact hout
  · exact fun files hfiles => compileAll_of_compilesApart hreadable hfiles finishing out

/-- Two files that define the same macro in different ways. -/
def Disk.dotted : Disk :=
  ((withHome ["home"]).putFile ["home", "left"]
    (Utf8.encode "macro dot { xyz2 1,2,3; } left { dot; }")).putFile ["home", "right"]
      (Utf8.encode "macro dot { fog 7; } right { dot; dot; }")

/-- In whatever order they finish, both files get their own macro. -/
theorem compileAll_files_dotted :
    (∀ name ∈ ["right", "left"], ∃ contents, Disk.dotted.readFile name = .ok contents) ∧
      ∀ finishing, (compileAll { target := .packets } false
        (["right", "left"].map Disk.dotted.input) finishing {}).1.result
          = .ok ["right", "left"] := by
  have hleft : Disk.dotted.readFile "left"
      = .ok (Utf8.encode "macro dot { xyz2 1,2,3; } left { dot; }") := by decide +kernel
  have hright : Disk.dotted.readFile "right"
      = .ok (Utf8.encode "macro dot { fog 7; } right { dot; dot; }") := by decide +kernel
  have hreadable : ∀ name ∈ ["right", "left"],
      ∃ contents, Disk.dotted.readFile name = .ok contents := by
    simp only [List.forall_mem_cons]
    exact ⟨⟨_, hright⟩, ⟨_, hleft⟩, by simp⟩
  have hapart : Disk.dotted.CompilesApart .none ["right", "left"]
      [[{ name := "right", writes := [.fog 7, .fog 7] }],
        [{ name := "left", writes := [.xyz2 ⟨1, 2, 3⟩] }]] := by
    refine ⟨.cons ⟨_, hright, ?_⟩ (.cons ⟨_, hleft, ?_⟩ .nil), by simp⟩
    · rw [Source.ofBytes, Utf8.decode_encode]
      exact compile_of_evaluated (by decide +kernel) (by decide +kernel)
    · rw [Source.ofBytes, Utf8.decode_encode]
      exact compile_of_evaluated (by decide +kernel) (by decide +kernel)
  refine ⟨hreadable, fun finishing => ?_⟩
  obtain ⟨-, -, hran⟩ := compileAll_files { target := .packets } Disk.dotted _ hreadable {}
  exact ((hran finishing).2.2 _ hapart).1.trans (by decide +kernel)

end RegisterScript
