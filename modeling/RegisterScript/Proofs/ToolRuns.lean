import RegisterScript.Proofs.DiskFrame
import RegisterScript.Proofs.SeveralScripts
import RegisterScript.Tool.Compiler
import RegisterScript.Tool.Disassembler

/-!
# What a run leaves on the disk

The compiler and the disassembler read files and write one.  The work of either is a `Translation`:
it has inputs and a destination, and makes its output of what it finds on a disk.

**The order of events.**  The output is made ready before the inputs are read, which are therefore
read on another disk than the one before the run (`Destination.readied`).  `Translation.Delivers`
says what is then left: the output if all went well, no output if not, and everything else as it
was.

**Inputs.**  What is produced depends on nothing but the inputs (`Translation.Reads`), and they are
the same on both disks, unless the name of one leads to the place of the output.  So if none does
(`Translation.Apart`), all inputs are kept and the output is that of the inputs as they were.
Otherwise it is kept only by coincidence: `Translation.Runs` says exactly when.

**Both tools.**  `work_leaves_disk` says so of `Compiler.work` and `Disassembler.work`, for all
settings, destinations and inputs.  How a command line is read does not come into it.  A run is one
such work once its command line has been accepted, and `run_leaves_disk` is what follows for it.
-/

namespace RegisterScript

/-! ## Destinations -/

namespace Destination

/-- The path of the output, if it goes to a file and the file can be made. -/
def place? (d : Disk) : Destination → Option Path
  | standardOutput => none
  | file name => (d.create name).toOption.map Prod.snd

/-- The disk once the output has been made ready, as far as it can be. -/
def readied (d : Disk) (o : Destination) : Disk :=
  match o.prepare d with
  | .ok (d', _) => d'
  | .error _ => d

/-- A file that has been made ready is an empty one, at the place to which its name leads. -/
structure Makes (o : Destination) (d : Disk) (name : String) (p : Path) : Prop where
  prepare : o.prepare d = .ok (d.set p (.file []), .file name p)
  place : o.place? d = some p
  name_ne : name ≠ ""
  path_ne : p ≠ []
  leadsTo : d.LeadsTo name p
  not_directory : d.node? p ≠ some .directory

lemma prepare_cases (o : Destination) (d : Disk) :
    (o.prepare d = .ok (d, .standardOutput) ∧ o.place? d = none) ∨
    (∃ name p, o.Makes d name p) ∨
    ∃ f, o.prepare d = .error f ∧ o.place? d = none := by
  cases o with
  | standardOutput => exact .inl ⟨rfl, rfl⟩
  | file name =>
      cases hcreate : d.create name with
      | error e =>
          refine .inr (.inr ⟨.creatingOutput (.device e), ?_, ?_⟩)
          · rw [prepare, hcreate]
          · simp [place?, hcreate, Except.toOption]
      | ok made =>
          obtain ⟨d', p⟩ := made
          obtain ⟨hname, hp, hleads, hnode, rfl⟩ := Disk.of_create hcreate
          refine .inr (.inl ⟨name, p, ?_, ?_, hname, hp, hleads, hnode⟩)
          · rw [prepare, hcreate]
          · simp [place?, hcreate, Except.toOption]

variable {o : Destination} {d : Disk} {name : String} {p : Path}

lemma Makes.readied_eq (h : o.Makes d name p) : o.readied d = d.set p (.file []) := by
  rw [readied, h.prepare]

/-- The disk after a run that wrote to the file. -/
lemma Makes.finished (h : o.Makes d name p) (contents : Bytes) (failed : Bool) :
    let after := (Delivery.file name p).finished
      ((Delivery.file name p).written (o.readied d) contents) failed
    Disk.SameDirectories d after ∧
      ∀ q, after.node? q
        = if q = p then (if failed then none else some (.file contents)) else d.node? q := by
  have hreadied := Disk.sameDirectories_set h.path_ne h.not_directory []
  have hwritten : Disk.SameDirectories d ((d.set p (.file [])).set p (.file contents)) :=
    hreadied.trans (Disk.sameDirectories_set h.path_ne
      (by rw [Disk.node?_set d h.path_ne, if_pos rfl]; simp) contents)
  have hnode : ∀ q, ((d.set p (.file [])).set p (.file contents)).node? q
      = if q = p then some (.file contents) else d.node? q := by
    intro q
    rw [Disk.node?_set _ h.path_ne, Disk.node?_set _ h.path_ne]
    by_cases hq : q = p
    · rw [if_pos hq, if_pos hq]
    · rw [if_neg hq, if_neg hq, if_neg hq]
  intro after
  cases failed with
  | false =>
      have hafter : after = (d.set p (.file [])).set p (.file contents) := by
        rw [← h.readied_eq]
        rfl
      rw [hafter]
      exact ⟨hwritten, hnode⟩
  | true =>
      have hp : ((d.set p (.file [])).set p (.file contents)).node? p = some (.file contents) := by
        rw [hnode, if_pos rfl]
      have hafter : after = ((d.set p (.file [])).set p (.file contents)).erase p := by
        rw [← Disk.remove_of_leadsTo h.name_ne (hwritten.leadsTo_iff.mpr h.leadsTo) hp,
          ← h.readied_eq]
        rfl
      rw [hafter]
      refine ⟨hwritten.trans (Disk.sameDirectories_erase h.path_ne (by rw [hp]; simp)), fun q => ?_⟩
      rw [Disk.node?_erase _ h.path_ne, hnode]
      by_cases hq : q = p
      · rw [if_pos hq, if_pos hq, if_pos rfl]
      · rw [if_neg hq, if_neg hq, if_neg hq]

end Destination

/-! ## Translations -/

/-- A run of one of the two tools. -/
structure Translation where
  /-- The names of its inputs. -/
  inputs : List String
  destination : Destination
  /-- What it makes of the inputs as they are on a disk. -/
  produce : Disk → Outcome (List String) × Output

/-- If one of the two succeeds so does the other, with the same result and the same output. -/
def SucceedAlike (ran ran' : Outcome (List String) × Output) : Prop :=
  ∀ written out, (ran.1.result = .ok written ∧ ran.2 = out) ↔
    (ran'.1.result = .ok written ∧ ran'.2 = out)

namespace Translation

/-- Nothing but the inputs counts for what is produced. -/
def Reads (t : Translation) : Prop :=
  ∀ d d' : Disk, (∀ name ∈ t.inputs, ∀ found,
      d'.find "open" name = .ok found ↔ d.find "open" name = .ok found) →
    SucceedAlike (t.produce d) (t.produce d')

/-- What a run makes of the disk `d`, its inputs having been read on `source`: the run succeeds if
the destination can be made ready and the translation succeeds; then the output is in its place, and
otherwise nothing is; and nothing changes anywhere else. -/
structure Delivers (t : Translation) (source d after : Disk) (succeeded : Prop) : Prop where
  succeeded_iff : succeeded ↔ (∃ readied, t.destination.prepare d = .ok readied) ∧
    ∃ written, (t.produce source).1.result = .ok written
  written : succeeded → ∀ p, t.destination.place? d = some p →
    after.node? p = some (.file (t.produce source).2.contents)
  removed : ¬ succeeded → ∀ p, t.destination.place? d = some p → after.node? p = none
  others : ∀ q, t.destination.place? d ≠ some q → after.node? q = d.node? q

/-- Every input that can be read has the contents that it had. -/
def KeepsInputs (t : Translation) (d after : Disk) : Prop :=
  ∀ name ∈ t.inputs, ∀ contents, d.readFile name = .ok contents →
    after.readFile name = .ok contents

/-- No input is at the place of the output, whatever it is called. -/
def Apart (t : Translation) (d : Disk) : Prop :=
  ∀ p, t.destination.place? d = some p → ∀ name ∈ t.inputs, ¬ d.LeadsTo name p

/-- What a run does.  The inputs are read once the output has been made ready.  An input that is at
the place of the output keeps its contents only if they are what the run writes.  If no input is
there, the run is as good as one that reads its inputs first. -/
structure Runs (t : Translation) (d after : Disk) (succeeded : Prop) : Prop where
  delivers : t.Delivers (t.destination.readied d) d after succeeded
  kept_iff : ∀ name ∈ t.inputs, ∀ contents, d.readFile name = .ok contents →
    (after.readFile name = .ok contents ↔
      ∀ p, t.destination.place? d = some p → d.LeadsTo name p →
        succeeded ∧ (t.produce (t.destination.readied d)).2.contents = contents)
  apart : t.Apart d → t.Delivers d d after succeeded ∧ t.KeepsInputs d after

variable {t : Translation} {source source' d after : Disk} {succeeded : Prop}

lemma Delivers.of_alike (h : t.Delivers source d after succeeded)
    (halike : SucceedAlike (t.produce source') (t.produce source)) :
    t.Delivers source' d after succeeded := by
  refine ⟨?_, ?_, h.removed, h.others⟩
  · rw [h.succeeded_iff]
    refine and_congr_right fun _ => exists_congr fun written => ?_
    exact ⟨fun hok => ((halike written _).mpr ⟨hok, rfl⟩).1,
      fun hok => ((halike written _).mp ⟨hok, rfl⟩).1⟩
  · intro hsucceeded p hp
    obtain ⟨-, written, hok⟩ := h.succeeded_iff.mp hsucceeded
    rw [((halike written _).mpr ⟨hok, rfl⟩).2]
    exact h.written hsucceeded p hp

/-- **An input at the place of the output is kept only by coincidence**, any other in any case. -/
lemma Delivers.kept_iff (h : t.Delivers source d after succeeded)
    (hsame : Disk.SameDirectories d after) {name : String} {contents : Bytes}
    (hread : d.readFile name = .ok contents) :
    after.readFile name = .ok contents ↔
      ∀ p, t.destination.place? d = some p → d.LeadsTo name p →
        succeeded ∧ (t.produce source).2.contents = contents := by
  obtain ⟨q, hfind⟩ := Disk.readFile_eq_ok_iff.mp hread
  obtain ⟨hname, hleads, hnode⟩ := Disk.find_eq_ok_iff.mp hfind
  have hafter : after.readFile name = .ok contents ↔ after.node? q = some (.file contents) := by
    rw [Disk.readFile_eq_ok_iff]
    constructor
    · rintro ⟨q', hfind'⟩
      obtain ⟨-, hleads', hnode'⟩ := Disk.find_eq_ok_iff.mp hfind'
      rwa [Disk.leadsTo_unique hleads (hsame.leadsTo_iff.mp hleads')]
    · exact fun hq => ⟨q, Disk.find_eq_ok_iff.mpr ⟨hname, hsame.leadsTo_iff.mpr hleads, hq⟩⟩
  rw [hafter]
  by_cases hplace : t.destination.place? d = some q
  · constructor
    · intro hq p hp _
      by_cases hsucceeded : succeeded
      · obtain rfl : q = p := Option.some.inj (hplace.symm.trans hp)
        have hwritten := (h.written hsucceeded q hplace).symm.trans hq
        exact ⟨hsucceeded, Node.file.inj (Option.some.inj hwritten)⟩
      · rw [h.removed hsucceeded q hplace] at hq
        cases hq
    · intro hall
      obtain ⟨hsucceeded, hcontents⟩ := hall q hplace hleads
      rw [h.written hsucceeded q hplace, hcontents]
  · rw [h.others q hplace]
    refine iff_of_true hnode fun p hp hleads' => ?_
    rw [Disk.leadsTo_unique hleads hleads'] at hplace
    exact absurd hp hplace

/-- Inputs that are elsewhere are found on both disks, or on neither. -/
lemma Apart.find_iff (hapart : t.Apart d) {name : String} (hname : name ∈ t.inputs)
    (found : Path × Node) :
    (t.destination.readied d).find "open" name = .ok found ↔ d.find "open" name = .ok found := by
  obtain ⟨q, n⟩ := found
  rcases t.destination.prepare_cases d with ⟨hprepare, -⟩ | ⟨file, p, h⟩ | ⟨f, hprepare, -⟩
  · rw [Destination.readied, hprepare]
  · have hsame := Disk.sameDirectories_set h.path_ne h.not_directory []
    rw [h.readied_eq, Disk.find_eq_ok_iff, Disk.find_eq_ok_iff, hsame.leadsTo_iff]
    refine and_congr_right fun _ => and_congr_right fun hleads => ?_
    have hq : q ≠ p := by
      rintro rfl
      exact hapart q h.place name hname hleads
    rw [Disk.node?_set d h.path_ne, if_neg hq]
  · rw [Destination.readied, hprepare]

lemma Delivers.runs (hreads : t.Reads)
    (h : t.Delivers (t.destination.readied d) d after succeeded)
    (hsame : Disk.SameDirectories d after) : t.Runs d after succeeded := by
  refine ⟨h, fun name _ contents hread => h.kept_iff hsame hread, fun hapart => ?_⟩
  have halike := hreads d (t.destination.readied d) fun name hname => hapart.find_iff hname
  refine ⟨h.of_alike halike, fun name hname contents hread => ?_⟩
  exact (h.kept_iff hsame hread).mpr fun p hp hleads => absurd hleads (hapart p hp name hname)

/-! ## Delivering -/

lemma faultOf_eq_none_iff {α : Type} {result : Except Fault α} :
    faultOf result = none ↔ ∃ a, result = .ok a := by
  cases result <;> simp [faultOf]

/-- What is delivered is what was produced on the disk that had been made ready. -/
lemma runs_deliver (hreads : t.Reads) {ready : Disk} {delivery : Delivery}
    (hprepare : t.destination.prepare d = .ok (ready, delivery)) (logger : Logger)
    (notes : List Note) :
    let w := Work.deliver logger notes (t.produce ready).1 (t.produce ready).2 ready delivery
    t.Runs d w.disk (w.fault = none) := by
  intro w
  have hreadied : t.destination.readied d = ready := by rw [Destination.readied, hprepare]
  have hsucceeded : w.fault = none ↔ (∃ readied, t.destination.prepare d = .ok readied) ∧
      ∃ written, (t.produce ready).1.result = .ok written := by
    rw [and_iff_right ⟨_, hprepare⟩]
    exact faultOf_eq_none_iff
  rcases t.destination.prepare_cases d with ⟨hstandard, hplace⟩ | ⟨name, p, h⟩ | ⟨f, hfault, -⟩
  · obtain ⟨rfl, rfl⟩ := Prod.mk.inj (Except.ok.inj (hprepare.symm.trans hstandard))
    refine Delivers.runs hreads ?_ (.refl _)
    rw [hreadied]
    exact ⟨hsucceeded, by simp [hplace], by simp [hplace], fun _ _ => rfl⟩
  · obtain ⟨rfl, rfl⟩ := Prod.mk.inj (Except.ok.inj (hprepare.symm.trans h.prepare))
    obtain ⟨hsame, hnode⟩ := h.finished (t.produce (d.set p (.file []))).2.contents w.fault.isSome
    rw [hreadied] at hsame hnode
    refine Delivers.runs hreads ?_ hsame
    rw [hreadied]
    refine ⟨hsucceeded, ?_, ?_, ?_⟩
    · intro hnone q hq
      obtain rfl : p = q := Option.some.inj (h.place.symm.trans hq)
      refine (hnode p).trans ?_
      rw [if_pos rfl, hnone]
      rfl
    · intro hsome q hq
      obtain rfl : p = q := Option.some.inj (h.place.symm.trans hq)
      refine (hnode p).trans ?_
      rw [if_pos rfl, if_pos (Option.isSome_iff_ne_none.mpr hsome)]
    · intro q hq
      refine (hnode q).trans (if_neg ?_)
      rintro rfl
      exact hq h.place
  · rw [hprepare] at hfault
    cases hfault

/-- A run whose output cannot be made leaves everything as it is. -/
lemma runs_unready (hreads : t.Reads) {f : Fault} (hprepare : t.destination.prepare d = .error f)
    (hfailed : ¬ succeeded) : t.Runs d d succeeded := by
  have hplace : t.destination.place? d = none := by
    rcases t.destination.prepare_cases d with ⟨hstandard, -⟩ | ⟨name, p, h⟩ | ⟨f, -, hplace⟩
    · rw [hprepare] at hstandard
      cases hstandard
    · have hmade := h.prepare
      rw [hprepare] at hmade
      cases hmade
    · exact hplace
  refine Delivers.runs hreads ⟨iff_of_false hfailed ?_, by simp [hplace], by simp [hplace],
    fun _ _ => rfl⟩ (.refl d)
  rintro ⟨⟨readied, hok⟩, -⟩
  rw [hprepare] at hok
  cases hok

end Translation

/-! ## The compiler -/

section Compiler

variable {config : Config} {inputs inputs' : List Input}

/-- Two inputs have the same name, and if one of them can be opened so can the other, with the same
script in it. -/
structure Input.Alike (i i' : Input) : Prop where
  name : i'.name = i.name
  opened_iff : ∀ s, i'.opened = .ok s ↔ i.opened = .ok s

lemma Disk.opened_input_eq_ok_iff {d : Disk} {name : String} {s : Source} :
    (d.input name).opened = .ok s ↔ ∃ found, d.find "open" name = .ok found ∧
      Source.ofBytes name (found.2.read name).1 (found.2.read name).2 = s := by
  cases hfind : d.find "open" name <;> simp [Disk.input, hfind, Except.map]

lemma Input.Alike.compile_iff {i i' : Input} (h : i.Alike i') (passes : Passes)
    (bs : List Block) :
    (i'.compile passes false).result = .ok bs ↔ (i.compile passes false).result = .ok bs := by
  cases hopened : i.opened with
  | ok s => rw [Input.compile, Input.compile, hopened, (h.opened_iff s).mpr hopened]
  | error e =>
      cases hopened' : i'.opened with
      | ok s =>
          rw [(h.opened_iff s).mp hopened'] at hopened
          cases hopened
      | error e' => simp [Input.compile, hopened, hopened']

lemma resultsOf_eq_map_ok_iff (h : List.Forall₂ Input.Alike inputs inputs') (passes : Passes)
    (files : List (List Block)) :
    resultsOf passes inputs' = files.map .ok ↔ resultsOf passes inputs = files.map .ok := by
  induction h generalizing files with
  | nil => rfl
  | cons hi _ ih =>
      cases files with
      | nil => simp [resultsOf]
      | cons bs files =>
          have htail := ih files
          simp only [resultsOf, List.map_cons, List.cons.injEq] at htail ⊢
          rw [hi.compile_iff, htail]

lemma map_name_of_alike (h : List.Forall₂ Input.Alike inputs inputs') :
    inputs'.map Input.name = inputs.map Input.name := by
  induction h with
  | nil => rfl
  | cons hi _ ih => rw [List.map_cons, List.map_cons, hi.name, ih]

/-- Several scripts succeed alike if each of them does. -/
lemma succeedAlike_compileAll (h : List.Forall₂ Input.Alike inputs inputs') (finishing : List Nat)
    (out : Output) :
    SucceedAlike (compileAll config false inputs finishing out)
      (compileAll config false inputs' finishing out) := by
  intro written out'
  by_cases hall : ∃ files : List (List Block), resultsOf config.passes inputs = files.map .ok
  · obtain ⟨files, hfiles⟩ := hall
    have hran := compileAll_of_compiled hfiles finishing out
    have hran' := compileAll_of_compiled
      ((resultsOf_eq_map_ok_iff h config.passes files).mpr hfiles) finishing out
    rw [map_name_of_alike h] at hran'
    obtain ⟨hresult, hout⟩ := Prod.mk.inj (hran.trans hran'.symm)
    rw [hresult, hout]
  · obtain ⟨f, hf, -⟩ := compileAll_of_uncompiled hall finishing out
    have hall' : ¬ ∃ files : List (List Block), resultsOf config.passes inputs' = files.map .ok :=
      fun ⟨files, hfiles⟩ =>
        hall ⟨files, (resultsOf_eq_map_ok_iff h config.passes files).mp hfiles⟩
    obtain ⟨f', hf', -⟩ := compileAll_of_uncompiled hall' finishing out
    rw [hf, hf']
    simp

end Compiler

namespace Compiler

/-- Compiling the named scripts. -/
def translation (config : Config) (destination : Destination) (names : List String) :
    Translation where
  inputs := names
  destination := destination
  produce d := compileAll config false (names.map d.input) (List.range names.length) {}

lemma reads_translation (config : Config) (destination : Destination) (names : List String) :
    (translation config destination names).Reads := by
  intro d d' hfind
  refine succeedAlike_compileAll ?_ _ _
  have halike : ∀ name ∈ names, (d.input name).Alike (d'.input name) := by
    intro name hname
    refine ⟨rfl, fun s => ?_⟩
    rw [Disk.opened_input_eq_ok_iff, Disk.opened_input_eq_ok_iff]
    exact exists_congr fun found => and_congr_left fun _ => hfind name hname found
  rw [List.forall₂_map_left_iff, List.forall₂_map_right_iff, List.forall₂_same]
  exact halike

/-- One script that cannot be opened is enough for the compiler to fail. -/
lemma result_produce_unopened (config : Config) (destination : Destination) {names : List String}
    {d : Disk} {name : String} (hname : name ∈ names)
    (hopened : ∀ found, d.find "open" name ≠ .ok found) :
    ∃ f, ((translation config destination names).produce d).1.result = .error f := by
  have huncompiled : ¬ ∃ files : List (List Block),
      resultsOf config.passes (names.map d.input) = files.map .ok := by
    rintro ⟨files, hfiles⟩
    have hresult : ((d.input name).compile config.passes false).result ∈ files.map .ok := by
      rw [← hfiles]
      exact List.mem_map_of_mem (List.mem_map_of_mem hname)
    cases hfind : d.find "open" name with
    | ok found => exact hopened found hfind
    | error e => simp [Input.compile, Disk.input, hfind, Except.map] at hresult
  obtain ⟨f, hf, -⟩ := compileAll_of_uncompiled huncompiled (List.range names.length) {}
  exact ⟨f, hf⟩

lemma work_runs (config : Config) (destination : Destination) (logger : Logger)
    (names : List String) (d : Disk) :
    (translation config destination names).Runs d
      (work config destination logger names d).disk
      ((work config destination logger names d).fault = none) := by
  have hreads := reads_translation config destination names
  cases hprepare : destination.prepare d with
  | error f =>
      rw [work, hprepare]
      exact Translation.runs_unready hreads hprepare (by simp)
  | ok readied =>
      obtain ⟨ready, delivery⟩ := readied
      rw [work, hprepare]
      exact Translation.runs_deliver hreads hprepare logger _

end Compiler

/-! ## The disassembler -/

namespace Disassembler

/-- Disassembling the named stream. -/
def translation (config : Config) (destination : Destination) (name : String) : Translation where
  inputs := [name]
  destination := destination
  produce d :=
    match d.find "open" name with
    | .error e => ({ result := .error (.openingInput (.device e)) }, {})
    | .ok (_, n) => disassembleTo config false name (n.read name).1 (n.read name).2 {}

lemma reads_translation (config : Config) (destination : Destination) (name : String) :
    (translation config destination name).Reads := by
  intro d d' hfind written out
  have hname := hfind name List.mem_cons_self
  cases hopened : d.find "open" name with
  | ok found => simp only [translation, hopened, (hname found).mpr hopened]
  | error e =>
      cases hopened' : d'.find "open" name with
      | ok found =>
          rw [(hname found).mp hopened'] at hopened
          cases hopened
      | error e' => simp [translation, hopened, hopened']

/-- Without its input the disassembler does nothing. -/
lemma work_unopened (config : Config) (destination : Destination) (logger : Logger) {name : String}
    {d : Disk} (hopened : ∀ found, d.find "open" name ≠ .ok found) :
    (work config destination logger name d).disk = d ∧
      (work config destination logger name d).fault ≠ none := by
  cases hfind : d.find "open" name with
  | ok found => exact absurd hfind (hopened found)
  | error e => simp [work, hfind]

/-- An input that has been opened is read where it was found, which is where it is found again once
the output has been made ready. -/
lemma find_readied (destination : Destination) {d : Disk} {name : String} {p : Path} {n : Node}
    (hfind : d.find "open" name = .ok (p, n)) :
    ∃ n', (destination.readied d).node? p = some n' ∧
      (destination.readied d).find "open" name = .ok (p, n') := by
  obtain ⟨hname, hleads, hnode⟩ := Disk.find_eq_ok_iff.mp hfind
  rcases destination.prepare_cases d with ⟨hprepare, -⟩ | ⟨file, q, h⟩ | ⟨f, hprepare, -⟩
  · rw [Destination.readied, hprepare]
    exact ⟨n, hnode, hfind⟩
  · have hsame := Disk.sameDirectories_set h.path_ne h.not_directory []
    obtain ⟨n', hn'⟩ : ∃ n', (d.set q (.file [])).node? p = some n' := by
      rw [Disk.node?_set d h.path_ne]
      by_cases hp : p = q
      · exact ⟨_, if_pos hp⟩
      · exact ⟨n, (if_neg hp).trans hnode⟩
    rw [h.readied_eq]
    exact ⟨n', hn', Disk.find_eq_ok_iff.mpr ⟨hname, hsame.leadsTo_iff.mpr hleads, hn'⟩⟩
  · rw [Destination.readied, hprepare]
    exact ⟨n, hnode, hfind⟩

lemma work_runs (config : Config) (destination : Destination) (logger : Logger) {name : String}
    {d : Disk} {found : Path × Node} (hfind : d.find "open" name = .ok found) :
    (translation config destination name).Runs d
      (work config destination logger name d).disk
      ((work config destination logger name d).fault = none) := by
  obtain ⟨p, n⟩ := found
  have hreads := reads_translation config destination name
  cases hprepare : destination.prepare d with
  | error f =>
      rw [work, hfind]
      simp only [hprepare]
      exact Translation.runs_unready hreads hprepare (by simp)
  | ok readied =>
      obtain ⟨ready, delivery⟩ := readied
      obtain ⟨n', hnode, hfind'⟩ := find_readied destination hfind
      rw [Destination.readied, hprepare] at hnode hfind'
      have hproduce : (translation config destination name).produce ready
          = disassembleTo config false name (n'.read name).1 (n'.read name).2 {} := by
        simp only [translation, hfind']
      have hruns := Translation.runs_deliver hreads hprepare logger
      rw [hproduce] at hruns
      rw [work, hfind]
      simp only [hprepare, hnode, Option.getD_some]
      exact hruns _

end Disassembler

/-! ## Both tools -/

/-- **What the work of a tool leaves on the disk.**  The compiler reads its scripts, and the
disassembler its stream, and does to the disk what `Translation.Runs` says: the output is all that
changes, it is there if the work succeeds and gone if not, and if no input is at its place, then all
inputs are kept and the output is the one for the inputs as they were.  A disassembler that cannot
open its input does nothing at all. -/
theorem work_leaves_disk (config : Config) (destination : Destination) (logger : Logger)
    (d : Disk) :
    (∀ names, (Compiler.translation config destination names).Runs d
      (Compiler.work config destination logger names d).disk
      ((Compiler.work config destination logger names d).fault = none)) ∧
    ∀ name,
      ((∀ found, d.find "open" name ≠ .ok found) →
        (Disassembler.work config destination logger name d).disk = d ∧
          (Disassembler.work config destination logger name d).fault ≠ none) ∧
      ∀ found, d.find "open" name = .ok found →
        (Disassembler.translation config destination name).Runs d
          (Disassembler.work config destination logger name d).disk
          ((Disassembler.work config destination logger name d).fault = none) :=
  ⟨fun names => Compiler.work_runs config destination logger names d,
    fun _ => ⟨Disassembler.work_unopened config destination logger,
      fun _ => Disassembler.work_runs config destination logger⟩⟩

/-! ## From a command line -/

section Execute

variable {m : Manual} {words : List String} {d : Disk} {c : CommandLine}
  {work : CommandLine → Except Misuse Work} {w : Work}

lemma Manual.disk_execute (hrequest : m.request words = .ok (.run c)) (hwork : work c = .ok w) :
    (m.execute words d work).disk = w.disk := by
  rw [execute, hrequest]
  simp only [hwork]
  cases w.fault <;> rfl

lemma Manual.exit_execute (hrequest : m.request words = .ok (.run c)) (hwork : work c = .ok w) :
    ((m.execute words d work).exit = 0) = (w.fault = none) := by
  rw [execute, hrequest]
  simp only [hwork]
  cases w.fault <;> simp

lemma Manual.arguments_of_exactly {n : Nat} (harity : m.arity = .exactly n)
    (hrequest : m.request words = .ok (.run c)) : c.arguments.length = n := by
  rw [request] at hrequest
  split at hrequest
  · cases hrequest
  rename_i c' hread
  split_ifs at hrequest with hhelp hversion
  · cases hrequest
  · cases hrequest
  split at hrequest
  · cases hrequest
  rename_i hchecked
  obtain rfl : c' = c := by simpa using hrequest
  rw [Option.orElse_eq_orElse, Option.orElse_eq_or, Option.or_eq_none_iff] at hchecked
  by_contra hlength
  simp [harity, Arity.check, hlength] at hchecked

end Execute

section Run

variable {words : List String} {d : Disk} {c : CommandLine} {config : Config}

lemma Compiler.run_runs (environment : Option String)
    (hrequest : Compiler.manual.request words = .ok (.run c))
    (hconfig : (Settings.ofCommandLine Compiler.defaultBackend c).config (Compiler.passes c)
      = .ok config) :
    (Compiler.translation config (.ofName (c.text "output" "")) c.arguments).Runs d
      (Compiler.run environment words d).disk ((Compiler.run environment words d).exit = 0) := by
  rw [Compiler.run, Manual.disk_execute hrequest (by simp only [hconfig]; rfl),
    Manual.exit_execute hrequest (by simp only [hconfig]; rfl)]
  exact (work_leaves_disk config _ _ d).1 c.arguments

lemma Disassembler.run_runs (environment : Option String)
    (hrequest : Disassembler.manual.request words = .ok (.run c))
    (hconfig : (Settings.ofCommandLine Disassembler.defaultBackend c).config (Disassembler.passes c)
      = .ok config) :
    ∃ name, c.arguments = [name] ∧
      ((∀ found, d.find "open" name ≠ .ok found) →
        (Disassembler.run environment words d).disk = d ∧
          (Disassembler.run environment words d).exit ≠ 0) ∧
      ∀ found, d.find "open" name = .ok found →
        (Disassembler.translation config (.ofName (c.text "output" "")) name).Runs d
          (Disassembler.run environment words d).disk
          ((Disassembler.run environment words d).exit = 0) := by
  obtain ⟨name, hname⟩ : ∃ name, c.arguments = [name] :=
    List.length_eq_one_iff.mp (Manual.arguments_of_exactly rfl hrequest)
  refine ⟨name, hname, ?_⟩
  rw [Disassembler.run, Manual.disk_execute hrequest (by simp only [hconfig]; rfl), ne_eq,
    Manual.exit_execute hrequest (by simp only [hconfig]; rfl), hname]
  exact (work_leaves_disk config _ _ d).2 name

/-- **What a run leaves on the disk.**  Once its command line is accepted, a run of either tool
leaves on the disk what its work does (`work_leaves_disk`), and its exit code says whether that
succeeded. -/
theorem run_leaves_disk (environment : Option String) (words : List String) (d : Disk)
    (c : CommandLine) (config : Config) :
    (Compiler.manual.request words = .ok (.run c) →
      (Settings.ofCommandLine Compiler.defaultBackend c).config (Compiler.passes c) = .ok config →
      (Compiler.translation config (.ofName (c.text "output" "")) c.arguments).Runs d
        (Compiler.run environment words d).disk
        ((Compiler.run environment words d).exit = 0)) ∧
    (Disassembler.manual.request words = .ok (.run c) →
      (Settings.ofCommandLine Disassembler.defaultBackend c).config (Disassembler.passes c)
        = .ok config →
      ∃ name, c.arguments = [name] ∧
        ((∀ found, d.find "open" name ≠ .ok found) →
          (Disassembler.run environment words d).disk = d ∧
            (Disassembler.run environment words d).exit ≠ 0) ∧
        ∀ found, d.find "open" name = .ok found →
          (Disassembler.translation config (.ofName (c.text "output" "")) name).Runs d
            (Disassembler.run environment words d).disk
            ((Disassembler.run environment words d).exit = 0)) :=
  ⟨Compiler.run_runs environment, Disassembler.run_runs environment⟩

end Run

/-- A home directory with one script in it. -/
def Disk.homely : Disk :=
  (withHome ["home"]).putFile ["home", "a"] (Utf8.encode "a { finish 1; }")

lemma Disk.readFile_homely : homely.readFile "a" = .ok (Utf8.encode "a { finish 1; }") := by
  decide +kernel

lemma Disk.leadsTo_homely : homely.LeadsTo "a" ["home", "a"] := by
  rw [LeadsTo]
  decide +kernel

/-- The command line that asks for a run on the inputs, with a file as its output. -/
def CommandLine.into (output : String) (inputs : List String) : CommandLine where
  settings :=
    [({ name := "output", letter := some 'o', kind := .text ""
        help := "output file name (default stdout)" }, .text output)]
  arguments := inputs

/-- The script is compiled, and the disassembler refuses it; either way it is kept. -/
theorem run_leaves_disk_homely :
    let script := Utf8.encode "a { finish 1; }"
    let compiled := Compiler.run none ["-o", "out", "a"] .homely
    let disassembled := Disassembler.run none ["-o", "out", "a"] .homely
    (compiled.exit = 0 ∧ compiled.disk.readFile "a" = .ok script ∧
      compiled.disk.node? ["home", "out"] = some (.file
        (compileAll { target := .cArray, passes := .all } false
          [Disk.homely.input "a"] [0] {}).2.contents)) ∧
    disassembled.exit ≠ 0 ∧ disassembled.disk.readFile "a" = .ok script ∧
      disassembled.disk.node? ["home", "out"] = none := by
  intro script compiled disassembled
  have hplace : (Destination.file "out").place? .homely = some ["home", "out"] := by decide +kernel
  have hapart : ∀ p, (Destination.file "out").place? .homely = some p →
      ∀ name ∈ ["a"], ¬ Disk.homely.LeadsTo name p := by
    intro p hp name hname hout
    obtain rfl : ["home", "out"] = p := Option.some.inj (hplace.symm.trans hp)
    rw [List.mem_singleton.mp hname] at hout
    exact absurd (Disk.leadsTo_unique Disk.leadsTo_homely hout) (by decide)
  constructor
  · have hruns := (run_leaves_disk none ["-o", "out", "a"] .homely (.into "out" ["a"])
      { target := .cArray, passes := .all }).1 (by cbv) (by cbv)
    obtain ⟨hdelivers, hkept⟩ := hruns.apart hapart
    have hcompiles : Disk.homely.CompilesApart .all ["a"]
        [[{ name := "a", writes := [.finish 1] }]] := by
      refine ⟨.cons ⟨_, Disk.readFile_homely, ?_⟩ .nil, by simp⟩
      rw [Source.ofBytes, Utf8.decode_encode]
      exact compile_of_evaluated (by decide +kernel) (by decide +kernel)
    have hreadable : ∀ name ∈ ["a"], ∃ contents, Disk.homely.readFile name = .ok contents := by
      simp [Disk.readFile_homely]
    have hexit : compiled.exit = 0 := by
      refine hdelivers.succeeded_iff.mpr ⟨⟨_, rfl⟩, ["a"], ?_⟩
      exact (compileAll_of_compilesApart hreadable hcompiles [0] {}).1.trans (by decide +kernel)
    exact ⟨hexit, hkept "a" List.mem_cons_self _ Disk.readFile_homely,
      hdelivers.written hexit _ hplace⟩
  · obtain ⟨name, hname, -, hopened⟩ := (run_leaves_disk none ["-o", "out", "a"] .homely
      (.into "out" ["a"]) { target := .script, passes := .none }).2 (by cbv) (by cbv)
    obtain rfl : "a" = name := List.singleton_inj.mp hname
    obtain ⟨p, hfind⟩ := Disk.readFile_eq_ok_iff.mp Disk.readFile_homely
    obtain ⟨hdelivers, hkept⟩ := (hopened _ hfind).apart hapart
    have hrefused : ((Disassembler.translation { target := .script, passes := .none }
        (.file "out") "a").produce .homely).1.result.isOk = false := by decide +kernel
    have hexit : disassembled.exit ≠ 0 := by
      intro hexit
      obtain ⟨-, written, hwritten⟩ := hdelivers.succeeded_iff.mp hexit
      cases hrefused.symm.trans (congrArg Except.isOk hwritten)
    exact ⟨hexit, hkept "a" List.mem_cons_self _ Disk.readFile_homely,
      hdelivers.removed hexit _ hplace⟩

/-- **An input can be lost.**  A script that is also the output is gone once another input has made
the run fail. -/
theorem run_loses_input :
    let words := ["-o", "a", "a", "missing"]
    let c := CommandLine.into "a" ["a", "missing"]
    let ran := Compiler.run none words .homely
    Compiler.manual.request words = .ok (.run c) ∧
      (Settings.ofCommandLine Compiler.defaultBackend c).config (Compiler.passes c)
        = .ok { target := .cArray, passes := .all } ∧
      Disk.homely.readFile "a" = .ok (Utf8.encode "a { finish 1; }") ∧
      ran.disk.readFile "a" ≠ .ok (Utf8.encode "a { finish 1; }") ∧
      ran.disk.node? ["home", "a"] = none := by
  intro words c ran
  have hrequest : Compiler.manual.request words = .ok (.run c) := by cbv
  have hconfig : (Settings.ofCommandLine Compiler.defaultBackend c).config (Compiler.passes c)
      = .ok { target := .cArray, passes := .all } := by cbv
  have hruns := Compiler.run_runs (d := .homely) none hrequest hconfig
  have hplace : (Destination.file "a").place? .homely = some ["home", "a"] := by decide +kernel
  have hfailed : ran.exit ≠ 0 := by
    intro hexit
    obtain ⟨-, written, hwritten⟩ := hruns.delivers.succeeded_iff.mp hexit
    have hfind : ((Destination.file "a").readied .homely).find "open" "missing"
        = .error (.notFound "open" "missing") := by decide +kernel
    have hnamed : "missing" ∈ ["a", "missing"] := by simp
    obtain ⟨f, hf⟩ := Compiler.result_produce_unopened { target := .cArray, passes := .all }
      (.file "a") hnamed (fun found hok => by cases hfind.symm.trans hok)
    cases hf.symm.trans hwritten
  refine ⟨hrequest, hconfig, Disk.readFile_homely, fun hread => ?_,
    hruns.delivers.removed hfailed _ hplace⟩
  have hkept := (hruns.kept_iff "a" List.mem_cons_self _ Disk.readFile_homely).mp hread
  exact hfailed (hkept _ hplace Disk.leadsTo_homely).1

end RegisterScript
