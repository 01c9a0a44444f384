import RegisterScript.Disk
import RegisterScript.Fault

/-!
# Where the output goes

An output goes to the standard output or to a file.  A file is created before anything is written.
If the run then fails the file is removed, so that no part of an output is left behind; a failure
to close it removes nothing.
-/

namespace RegisterScript

/-- Where an output goes. -/
inductive Destination where
  | standardOutput
  | file (name : String)
  deriving DecidableEq, Repr

/-- The destination that a name means; no name and a lone dash mean the standard output. -/
def Destination.ofName (name : String) : Destination :=
  if name = "" ∨ name = "-" then .standardOutput else .file name

/-- A destination that is ready to be written to. -/
inductive Delivery where
  | standardOutput
  | file (name : String) (path : Path)
  deriving DecidableEq, Repr

/-- Makes a destination ready.  A file is created, or emptied if it exists. -/
def Destination.prepare (d : Disk) : Destination → Except Fault (Disk × Delivery)
  | standardOutput => .ok (d, .standardOutput)
  | file name =>
    match d.create name with
    | .ok (d, p) => .ok (d, .file name p)
    | .error e => .error (.creatingOutput (.device e))

namespace Delivery

/-- What reaches the standard output. -/
def shown (contents : Bytes) : Delivery → Bytes
  | standardOutput => contents
  | file _ _ => []

/-- The disk once the output has been written. -/
def written (d : Disk) (contents : Bytes) : Delivery → Disk
  | standardOutput => d
  | file _ p => d.set p (.file contents)

/-- The disk after the run: the file of a failed run is taken away. -/
def finished (d : Disk) (failed : Bool) : Delivery → Disk
  | standardOutput => d
  | file name _ => if failed then d.remove name else d

end Delivery

/-- The fault of a run that may also have failed when its output was closed. -/
def joinFaults : Option Fault → Option Fault → Option Fault
  | some run, some closing => some (.both run closing)
  | run, closing => run <|> closing

end RegisterScript
