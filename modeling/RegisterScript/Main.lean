import RegisterScript.Tool

/-!
# The command line

The first word names a tool, the others are its command line.  What the tool may look at is copied
from the real disk, the tool runs on the copy, and what it has changed there is written back.
-/

namespace RegisterScript

/-- A path as the operating system writes it. -/
def absoluteName (p : Path) : String := "/" ++ "/".intercalate p

/-- Copies what is at a path, without what is below it. -/
def copyNode (d : Disk) (p : Path) : IO Disk := do
  let place := (← IO.currentDir) / absoluteName p
  if ← place.isDir then return d.makeDirectory p
  else if ← place.pathExists then return d.putFile p (← IO.FS.readBinFile place).toList
  else return d

/-- The path that an absolute name of the operating system means. -/
def pathOf (name : String) : Path := (Disk.steps name).filter (· ≠ "")

/-- Copies what is at a path and all that is below it. -/
def copyTree (d : Disk) (p : Path) : IO Disk := do
  let mut d ← copyNode d p
  let place := (← IO.currentDir) / absoluteName p
  if ← place.isDir then
    for entry in ← place.walkDir do
      d ← copyNode d (pathOf entry.toString)
  return d

/-- Copies what a name leads to and what lies on the way. -/
def copyName (d : Disk) (name : String) : IO Disk := do
  let mut d := d
  let mut p := if name.startsWith "/" then [] else d.home
  for step in Disk.steps name do
    p := Disk.stepFrom p step
    d ← copyNode d p
  return d

/-- Copies all that a tool may look at. -/
def copyDisk (tool : Tool) (words : List String) : IO Disk := do
  let home := pathOf (← IO.currentDir).toString
  let mut d := Disk.withHome home
  for name in tool.files words do
    d ← copyName d name
  for name in tool.directories do
    d ← copyTree d (Disk.stepFrom home name)
  return d

/-- Writes one change back. -/
def writeBack (change : Path × Option Bytes) : IO Unit :=
  match change.2 with
  | some contents => IO.FS.writeBinFile (absoluteName change.1) ⟨contents.toArray⟩
  | none => IO.FS.removeFile (absoluteName change.1)

/-- Runs a tool on the real disk. -/
def Tool.runOnDisk (tool : Tool) (words : List String) : IO UInt32 := do
  let before ← copyDisk tool words
  let report := tool.run (← IO.getEnv Tool.environmentName) words before
  (before.changes report.disk).forM writeBack
  (← IO.getStdout).write ⟨report.stdout.toArray⟩
  IO.eprint report.stderr
  return UInt32.ofNat report.exit

end RegisterScript

open RegisterScript in
/-- Runs the tool that the first word names. -/
def main (words : List String) : IO UInt32 :=
  match words with
  | [] => do
    IO.eprintln ("tools: " ++ ", ".intercalate (Tool.all.map Tool.name))
    return 1
  | name :: words =>
    match Tool.ofName? name with
    | some tool => tool.runOnDisk words
    | none => do
      IO.eprintln ("no such tool: " ++ name)
      return 1
