import RegisterScript.Tool.Compiler
import RegisterScript.Tool.Disassembler
import RegisterScript.Tool.GoldenTests

/-!
# The tools

The three tools of the library, each with the names of what it may look at on the disk, so that no
more than that has to be known of a disk before a run.
-/

namespace RegisterScript

/-- A tool. -/
structure Tool where
  name : String
  /-- The files that may be looked at when the tool runs on a command line. -/
  files : List String → List String
  /-- The directories that are searched whatever the command line is. -/
  directories : List String := []
  /-- Runs the tool in an environment, on a command line and a disk. -/
  run : Option String → List String → Disk → Report

namespace Tool

/-- The variable of the environment that says how much is logged. -/
def environmentName : String := "GIFSCRIPT_LOG"

/-- The output and the arguments of a command line for a tool that reads flags. -/
def filesOf (m : Manual) (words : List String) : List String :=
  match m.request words with
  | .ok (.run c) => c.text "output" "" :: c.arguments
  | _ => []

/-- All tools. -/
def all : List Tool :=
  [{ name := Compiler.manual.name, files := filesOf Compiler.manual, run := Compiler.run },
   { name := Disassembler.manual.name, files := filesOf Disassembler.manual
     run := Disassembler.run },
   { name := "testrunner", files := fun _ => [], directories := [GoldenTests.directory]
     run := GoldenTests.run }]

/-- The tool with a name. -/
def ofName? (name : String) : Option Tool := all.find? (·.name = name)

end Tool

end RegisterScript
