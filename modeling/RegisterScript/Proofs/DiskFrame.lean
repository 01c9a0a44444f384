import Mathlib.Tactic
import RegisterScript.Disk

/-!
# What stays where it is on a disk

A file is made, written and taken away by name, and everything else on the disk is to stay as it is.
Names are followed through directories, so this needs two things.

**By path.**  Setting or erasing a path changes what is at that path and nowhere else
(`Disk.node?_set`, `Disk.node?_erase`).

**By name.**  `Disk.LeadsTo` says to which path a name leads, whether or not there is anything.
That depends only on where the directories are (`Disk.SameDirectories`), and files come and go
without changing it.  The name of a file that was made leads to the path at which it was made
(`Disk.leadsTo_of_placeFor`), so taking it away by name takes away that file
(`Disk.remove_of_leadsTo`).
-/

namespace RegisterScript

namespace Disk

/-! ## By path -/

lemma lookup_cons_of_ne {p q : Path} (h : q ≠ p) (n : Node) (nodes : List (Path × Node)) :
    ((p, n) :: nodes).lookup q = nodes.lookup q := by
  rw [List.lookup_cons, beq_false_of_ne h]

lemma lookup_filter_ne (nodes : List (Path × Node)) (p q : Path) :
    (nodes.filter fun e => e.1 != p).lookup q = if q = p then none else nodes.lookup q := by
  induction nodes with
  | nil => simp
  | cons entry nodes ih =>
      obtain ⟨path, n⟩ := entry
      by_cases hpath : path = p
      · rw [List.filter_cons_of_neg (by simp [hpath]), ih, hpath]
        by_cases hq : q = p
        · rw [if_pos hq, if_pos hq]
        · rw [if_neg hq, if_neg hq, lookup_cons_of_ne hq]
      · rw [List.filter_cons_of_pos (by simp [hpath])]
        by_cases hq : q = path
        · rw [hq, List.lookup_cons_self, List.lookup_cons_self, if_neg hpath]
        · rw [lookup_cons_of_ne hq, lookup_cons_of_ne hq, ih]

section Paths

variable {d : Disk} {p : Path}

lemma node?_of_ne_nil (d : Disk) (hp : p ≠ []) : d.node? p = d.nodes.lookup p := by
  cases p with
  | nil => exact absurd rfl hp
  | cons name rest => rfl

lemma node?_erase (d : Disk) (hp : p ≠ []) (q : Path) :
    (d.erase p).node? q = if q = p then none else d.node? q := by
  cases q with
  | nil => rw [if_neg hp.symm]; rfl
  | cons name rest => exact lookup_filter_ne d.nodes p (name :: rest)

lemma node?_set (d : Disk) (hp : p ≠ []) (n : Node) (q : Path) :
    (d.set p n).node? q = if q = p then some n else d.node? q := by
  by_cases hq : q = p
  · subst hq
    rw [if_pos rfl, node?_of_ne_nil _ hp, set, List.lookup_cons_self]
  · cases q with
    | nil => rw [if_neg hq]; rfl
    | cons name rest =>
        rw [if_neg hq, node?_of_ne_nil _ (List.cons_ne_nil _ _), set, lookup_cons_of_ne hq, erase,
          lookup_filter_ne, if_neg hq]
        rfl

end Paths

/-! ## By name -/

/-- The directories of both disks are the same, and relative names start in the same one. -/
structure SameDirectories (d d' : Disk) : Prop where
  home : d'.home = d.home
  directory : ∀ q, d'.node? q = some .directory ↔ d.node? q = some .directory

/-- Following the name leads to the path, through directories all the way.  There need not be
anything at the path. -/
def LeadsTo (d : Disk) (name : String) (p : Path) : Prop :=
  d.followName "open" name (steps name) = .ok p

lemma SameDirectories.refl (d : Disk) : SameDirectories d d := ⟨rfl, fun _ => Iff.rfl⟩

lemma SameDirectories.trans {d d' d'' : Disk} (h : SameDirectories d d')
    (h' : SameDirectories d' d'') : SameDirectories d d'' :=
  ⟨h'.home.trans h.home, fun q => (h'.directory q).trans (h.directory q)⟩

section Names

variable {d d' : Disk} {p q : Path} {operation operation' name name' : String}

lemma sameDirectories_set (hp : p ≠ []) (hnode : d.node? p ≠ some .directory) (contents : Bytes) :
    SameDirectories d (d.set p (.file contents)) := by
  refine ⟨rfl, fun q => ?_⟩
  rw [node?_set d hp]
  by_cases hq : q = p
  · rw [if_pos hq, hq]
    exact iff_of_false (by simp) hnode
  · rw [if_neg hq]

lemma sameDirectories_erase (hp : p ≠ []) (hnode : d.node? p ≠ some .directory) :
    SameDirectories d (d.erase p) := by
  refine ⟨rfl, fun q => ?_⟩
  rw [node?_erase d hp]
  by_cases hq : q = p
  · rw [if_pos hq, hq]
    exact iff_of_false (by simp) hnode
  · rw [if_neg hq]

lemma obstacle_eq_none_iff :
    d.obstacle operation name p = none ↔ d.node? p = some .directory := by
  rw [obstacle]
  cases d.node? p with
  | none => simp
  | some n => cases n <;> simp

lemma follow_cons_eq_ok_iff {step : String} {rest : List String} :
    d.follow operation name p (step :: rest) = .ok q ↔
      d.node? p = some .directory ∧ d.follow operation name (stepFrom p step) rest = .ok q := by
  have hobstacle : d.obstacle operation name p = none ↔ d.node? p = some .directory :=
    obstacle_eq_none_iff
  rw [follow, ← hobstacle]
  cases d.obstacle operation name p <;> simp

/-- Where steps lead depends on directories alone. -/
lemma SameDirectories.follow_iff (h : SameDirectories d d') {path : List String} :
    d'.follow operation' name' p path = .ok q ↔ d.follow operation name p path = .ok q := by
  induction path generalizing p with
  | nil => simp [follow]
  | cons step rest ih => rw [follow_cons_eq_ok_iff, follow_cons_eq_ok_iff, h.directory, ih]

lemma followName_root (rest : List String) :
    d.followName operation name ("" :: rest) = d.follow operation name [] rest := rfl

lemma followName_home {path : List String} (h : path.head? ≠ some "") :
    d.followName operation name path = d.follow operation name d.home path := by
  rw [followName]
  rintro rest rfl
  exact h rfl

lemma SameDirectories.followName_iff (h : SameDirectories d d') {path : List String} :
    d'.followName operation' name' path = .ok q ↔ d.followName operation name path = .ok q := by
  by_cases hroot : path.head? = some ""
  · obtain ⟨rest, rfl⟩ := List.head?_eq_some_iff.mp hroot
    exact h.follow_iff
  · rw [followName_home hroot, followName_home hroot, h.home]
    exact h.follow_iff

lemma SameDirectories.leadsTo_iff (h : SameDirectories d d') :
    d'.LeadsTo name p ↔ d.LeadsTo name p :=
  h.followName_iff

lemma leadsTo_unique (hp : d.LeadsTo name p) (hq : d.LeadsTo name q) : p = q :=
  Except.ok.inj (hp.symm.trans hq)

lemma find_eq_ok_iff {n : Node} :
    d.find operation name = .ok (p, n) ↔ name ≠ "" ∧ d.LeadsTo name p ∧ d.node? p = some n := by
  have hleads : d.LeadsTo name p ↔ d.followName operation name (steps name) = .ok p :=
    (SameDirectories.refl d).followName_iff
  rw [hleads]
  by_cases hname : name = ""
  · simp [find, hname, bind, Except.bind, throw, throwThe, MonadExceptOf.throw]
  cases hfollow : d.followName operation name (steps name) with
  | error e => simp [find, hname, hfollow, bind, Except.bind]
  | ok q =>
      cases hnode : d.node? q with
      | none =>
          have hfind : d.find operation name = .error (.notFound operation name) := by
            simp [find, hname, hfollow, hnode, bind, Except.bind, throw, throwThe,
              MonadExceptOf.throw]
          refine iff_of_false (by simp [hfind]) ?_
          rintro ⟨-, hq, hn⟩
          rw [← Except.ok.inj hq, hnode] at hn
          cases hn
      | some n' =>
          have hfind : d.find operation name = .ok (q, n') := by
            simp [find, hname, hfollow, hnode, bind, Except.bind, pure, Except.pure]
          rw [hfind]
          constructor
          · intro h
            obtain ⟨rfl, rfl⟩ := Prod.mk.inj (Except.ok.inj h)
            exact ⟨hname, rfl, hnode⟩
          · rintro ⟨-, hq, hn⟩
            obtain rfl := Except.ok.inj hq
            rw [Option.some.inj (hnode.symm.trans hn)]

lemma readFile_eq_ok_iff {contents : Bytes} :
    d.readFile name = .ok contents ↔
      ∃ p, d.find "open" name = .ok (p, .file contents) := by
  rw [readFile]
  cases hfind : d.find "open" name with
  | error e => simp [bind, Except.bind]
  | ok found =>
      obtain ⟨q, n⟩ := found
      cases n with
      | directory => simp [bind, Except.bind, Node.read, throw, throwThe, MonadExceptOf.throw]
      | file bytes => simp [bind, Except.bind, Node.read, pure, Except.pure]

/-! ## Making a file and taking it away -/

lemma follow_concat {above : List String} {last : String}
    (h : d.follow operation name p above = .ok q) (hq : d.node? q = some .directory) :
    d.follow operation name p (above ++ [last]) = .ok (stepFrom q last) := by
  induction above generalizing p with
  | nil =>
      obtain rfl : p = q := by simpa [follow] using h
      exact follow_cons_eq_ok_iff.mpr ⟨hq, rfl⟩
  | cons step rest ih =>
      obtain ⟨hp, hrest⟩ := follow_cons_eq_ok_iff.mp h
      exact follow_cons_eq_ok_iff.mpr ⟨hp, ih hrest⟩

lemma followName_concat {above : List String} {last : String}
    (h : d.followName operation name above = .ok q) (hq : d.node? q = some .directory)
    (hlast : last ≠ "") :
    d.followName operation name (above ++ [last]) = .ok (stepFrom q last) := by
  cases above with
  | nil =>
      rw [followName_home (by simp)] at h
      rw [List.nil_append, followName_home (by simpa using hlast)]
      exact follow_concat h hq
  | cons step rest =>
      by_cases hroot : step = ""
      · rw [hroot, followName_root] at h
        rw [hroot, List.cons_append, followName_root]
        exact follow_concat h hq
      · rw [followName_home (by simpa using hroot)] at h
        rw [followName_home (by simpa using hroot)]
        exact follow_concat h hq

/-- A name that does not end in a slash ends in its last step. -/
lemma steps_eq_concat {last : String} {above : List String}
    (h : (steps name).reverse.dropWhile (· = "") = last :: above)
    (hslash : (steps name).reverse.head? ≠ some "") :
    last ≠ "" ∧ steps name = above.reverse ++ [last] := by
  cases hsteps : (steps name).reverse with
  | nil => simp [hsteps] at h
  | cons first rest =>
      have hfirst : first ≠ "" := by simpa [hsteps] using hslash
      rw [hsteps, List.dropWhile_cons_of_neg (by simpa using hfirst)] at h
      obtain ⟨rfl, rfl⟩ := List.cons.inj h
      refine ⟨hfirst, ?_⟩
      rw [← List.reverse_cons, ← hsteps, List.reverse_reverse]

/-- **The name of a file that is to be made leads to where it is made.** -/
lemma leadsTo_of_placeFor (h : d.placeFor name = .ok p) :
    name ≠ "" ∧ p ≠ [] ∧ d.LeadsTo name p := by
  rw [placeFor] at h
  split at h
  · cases h
  rename_i last above hlast
  split at h
  · cases h
  rename_i directory hfollow
  split at h
  · cases h
  rename_i hobstacle
  split_ifs at h with hname
  obtain rfl : directory ++ [last] = p := Except.ok.inj h
  obtain ⟨hslash, hdot, hdots⟩ :
      (steps name).reverse.head? ≠ some "" ∧ last ≠ "." ∧ last ≠ ".." := by
    simpa only [not_or] using hname
  obtain ⟨hne, hsteps⟩ := steps_eq_concat hlast hslash
  have hstep : stepFrom directory last = directory ++ [last] := by
    simp [stepFrom, hne, hdot, hdots]
  refine ⟨?_, by simp, ?_⟩
  · rintro rfl
    exact hslash rfl
  · rw [LeadsTo, hsteps, ← hstep]
    exact followName_concat hfollow (obstacle_eq_none_iff.mp hobstacle) hne

/-- A file is made where there was a file or nothing. -/
lemma of_create (h : d.create name = .ok (d', p)) :
    name ≠ "" ∧ p ≠ [] ∧ d.LeadsTo name p ∧ d.node? p ≠ some .directory ∧
      d' = d.set p (.file []) := by
  rw [create] at h
  cases hplace : d.placeFor name with
  | error e => simp [hplace, bind, Except.bind] at h
  | ok q =>
      obtain ⟨hname, hq, hleads⟩ := leadsTo_of_placeFor hplace
      simp only [hplace, bind, Except.bind] at h
      split at h
      · cases h
      · rename_i hnode
        obtain ⟨rfl, rfl⟩ := Prod.mk.inj (Except.ok.inj h)
        exact ⟨hname, hq, hleads, hnode, rfl⟩

/-- Taking a file away by its name erases the path to which the name leads. -/
lemma remove_of_leadsTo (hname : name ≠ "") (h : d.LeadsTo name p) {contents : Bytes}
    (hnode : d.node? p = some (.file contents)) : d.remove name = d.erase p := by
  rw [remove, find_eq_ok_iff.mpr ⟨hname, h, hnode⟩]

end Names

end Disk

end RegisterScript
