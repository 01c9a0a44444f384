import RegisterScript.Text.Utf8

/-!
# Devices

Reading and writing can fail for reasons outside this library.  A `DeviceError` records the
reason; an `Output` is a device that takes whole chunks of bytes and may stop taking them.

An output with a budget accepts that many chunks and refuses every later one, leaving what it has
already taken unchanged.  A file without any trouble is an output without a budget.
-/

namespace RegisterScript

/-- Why a device refused. -/
inductive DeviceError where
  /-- There is nothing at the path. -/
  | notFound (operation path : String)
  /-- The path is a directory. -/
  | isDirectory (operation path : String)
  /-- The path leads through something that is not a directory. -/
  | notDirectory (operation path : String)
  /-- Anything else, in the device's own words. -/
  | broken (reason : String)
  deriving DecidableEq, Repr

/-- The wording of a refusal. -/
def DeviceError.message : DeviceError → String
  | notFound operation path => operation ++ " " ++ path ++ ": no such file or directory"
  | isDirectory operation path => operation ++ " " ++ path ++ ": is a directory"
  | notDirectory operation path => operation ++ " " ++ path ++ ": not a directory"
  | broken reason => reason

/-- How a stream of input ends. -/
inductive Ending where
  /-- Everything was delivered. -/
  | complete
  /-- The device failed before delivering more. -/
  | broken (cause : DeviceError)
  deriving DecidableEq, Repr

/-- A device that takes chunks of bytes. -/
structure Output where
  /-- The chunks taken so far, newest first. -/
  chunks : List Bytes := []
  /-- How many more chunks are taken before the device fails, and how it fails then. -/
  budget : Option (Nat × DeviceError) := none
  deriving DecidableEq, Repr

namespace Output

/-- The bytes taken so far. -/
def contents (o : Output) : Bytes := o.chunks.reverse.flatten

/-- Hands over one chunk. -/
def write (o : Output) (chunk : Bytes) : Output × Option DeviceError :=
  match o.budget with
  | none => ({ o with chunks := chunk :: o.chunks }, none)
  | some (0, cause) => (o, some cause)
  | some (n + 1, cause) => ({ chunks := chunk :: o.chunks, budget := some (n, cause) }, none)

end Output

end RegisterScript
