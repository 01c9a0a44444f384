import RegisterScript.Device
import RegisterScript.Text.Basic

/-!
# The disk

The tools read and write files by name.  What they do to the disk is a function on a `Disk`, a
finite account of what is where, so that the effect of a whole run can be stated and compared with
the state before it.

**Names and paths.**  A path is the list of names on the way from the root.  A written name is
followed step by step: it starts at the root if it begins with a slash and in the home directory
otherwise, `..` goes up, and `.` and the empty name stay.  Every step needs a directory to stand
in; only what the last step leads to may be missing.

**Operations.**  `Disk.find` opens what is at a name, `Disk.create` makes or empties a file there,
`Disk.remove` takes one away, `Disk.changes` says in which files two disks differ.  A directory can
be opened but not read.
-/

namespace RegisterScript

/-- The names on the way from the root. -/
abbrev Path := List String

/-- What can be at a path. -/
inductive Node where
  | file (contents : Bytes)
  | directory
  deriving DecidableEq, Repr

/-- The contents of a file; `none` for a directory. -/
def Node.contents? : Node → Option Bytes
  | file contents => some contents
  | directory => none

/-- What reading delivers.  A directory, though opened, has nothing to read; the failure names it
as it was opened. -/
def Node.read (name : String) : Node → Bytes × Ending
  | file contents => (contents, .complete)
  | directory => ([], .broken (.isDirectory "read" name))

/-- What is where, and from where relative names start. -/
structure Disk where
  /-- Everything but the root; there is at most one entry for a path. -/
  nodes : List (Path × Node) := []
  /-- The directory in which relative names start. -/
  home : Path := []
  deriving DecidableEq, Repr

namespace Disk

/-! ## By path -/

/-- What is at a path.  The root is always a directory. -/
def node? (d : Disk) : Path → Option Node
  | [] => some .directory
  | p => d.nodes.lookup p

/-- The disk without what was at `p`. -/
def erase (d : Disk) (p : Path) : Disk := { d with nodes := d.nodes.filter fun e => e.1 != p }

/-- The disk with `n` at `p`, whatever was there. -/
def set (d : Disk) (p : Path) (n : Node) : Disk :=
  { d with nodes := (p, n) :: (d.erase p).nodes }

/-- The disk with a directory at `p` and at every path on the way; what is already there stays. -/
def makeDirectory (d : Disk) (p : Path) : Disk :=
  (List.range p.length).foldl
    (fun d i =>
      let q := p.take (i + 1)
      if (d.node? q).isSome then d else d.set q .directory) d

/-- The disk with a file at `p`, in directories made for it if need be. -/
def putFile (d : Disk) (p : Path) (contents : Bytes) : Disk :=
  (d.makeDirectory p.dropLast).set p (.file contents)

/-- An empty disk but for its home directory. -/
def withHome (home : Path) : Disk := ({ home := home } : Disk).makeDirectory home

/-- The files of the disk. -/
def files (d : Disk) : List (Path × Bytes) :=
  d.nodes.filterMap fun e => e.2.contents?.map fun contents => (e.1, contents)

/-- The contents of the file at `p`. -/
def contents? (d : Disk) (p : Path) : Option Bytes := (d.node? p).bind Node.contents?

/-- The files at and below `top`, a directory's own entries in the order of their names and each
subdirectory in its place among them. -/
def filesBelow (d : Disk) (top : Path) : List Path :=
  let paths := (d.files.map (·.1)).filter top.isPrefixOf
  paths.mergeSort fun p q => decide (¬ q < p)

/-- The files in which `after` differs from `before`, each with what it holds now; `none` if it is
gone. -/
def changes (before after : Disk) : List (Path × Option Bytes) :=
  let written := after.files.filter fun f => before.contents? f.1 != some f.2
  let gone := before.files.filter fun f => (after.contents? f.1).isNone
  written.map (fun f => (f.1, some f.2)) ++ gone.map fun f => (f.1, none)

/-! ## By name -/

/-- The steps that a written name takes. -/
def steps (name : String) : List String := (Text.split '/' name.toList).map String.ofList

/-- The path to which a step leads from `p`. -/
def stepFrom (p : Path) (step : String) : Path :=
  if step = "" ∨ step = "." then p
  else if step = ".." then p.dropLast
  else p ++ [step]

/-- Why one cannot go on from `p`; nothing if there is a directory. -/
def obstacle (d : Disk) (operation name : String) (p : Path) : Option DeviceError :=
  match d.node? p with
  | some .directory => none
  | some (.file _) => some (.notDirectory operation name)
  | none => some (.notFound operation name)

/-- Takes steps from `p`, each of them from a directory. -/
def follow (d : Disk) (operation name : String) (p : Path) : List String → Except DeviceError Path
  | [] => .ok p
  | step :: rest =>
    match d.obstacle operation name p with
    | some e => .error e
    | none => follow d operation name (stepFrom p step) rest

/-- Takes the steps of a name from the right end. -/
def followName (d : Disk) (operation name : String) : List String → Except DeviceError Path
  | "" :: rest => d.follow operation name [] rest
  | names => d.follow operation name d.home names

/-- The path that a name means, with what is there.  The empty name means nothing. -/
def find (d : Disk) (operation name : String) : Except DeviceError (Path × Node) := do
  if name = "" then throw (.notFound operation name)
  let p ← d.followName operation name (steps name)
  match d.node? p with
  | some n => return (p, n)
  | none => throw (.notFound operation name)

/-- Whether there is anything at a name. -/
def has (d : Disk) (name : String) : Bool := (d.find "stat" name).isOk

/-- Reads the file at a name in full. -/
def readFile (d : Disk) (name : String) : Except DeviceError Bytes := do
  let (_, n) ← d.find "open" name
  match n.read name with
  | (contents, .complete) => return contents
  | (_, .broken e) => throw e

/-- The path at which a file of that name is to be made.  Its directory must be there; a name that
ends in a slash or in one of the two names for directories is not for a file. -/
def placeFor (d : Disk) (name : String) : Except DeviceError Path :=
  let upwards := (steps name).reverse
  match upwards.dropWhile (· = "") with
  | [] => .error (if name = "" then .notFound "open" name else .isDirectory "open" name)
  | last :: above =>
    match d.followName "open" name above.reverse with
    | .error e => .error e
    | .ok p =>
      match d.obstacle "open" name p with
      | some e => .error e
      | none =>
        if upwards.head? = some "" ∨ last = "." ∨ last = ".." then
          .error (.isDirectory "open" name)
        else .ok (p ++ [last])

/-- Makes an empty file at a name, or empties the one that is there. -/
def create (d : Disk) (name : String) : Except DeviceError (Disk × Path) := do
  let p ← d.placeFor name
  match d.node? p with
  | some .directory => throw (.isDirectory "open" name)
  | _ => return (d.set p (.file []), p)

/-- Takes away the file at a name, if there is one. -/
def remove (d : Disk) (name : String) : Disk :=
  match d.find "remove" name with
  | .ok (p, .file _) => d.erase p
  | _ => d

end Disk

end RegisterScript
