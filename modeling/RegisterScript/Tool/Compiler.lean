import RegisterScript.Tool.Report

/-!
# The compiler

Compiles the named scripts into one output.  Both clean-up passes run unless they are switched off.

The output is made ready first, and only then are the scripts opened: a script that is also the
output is empty by the time it is read.
-/

namespace RegisterScript

namespace Compiler

/-- The format written by default. -/
def defaultBackend : String := "c_code"

/-- What the compiler says about itself. -/
def manual : Manual where
  name := "gifscript"
  purpose := "Compile GIFScript sources into GS register writes for the PS2 GIF."
  synopsis := "[flags] <file.gs>..."
  ownFlags := sharedFlags defaultBackend ++
    [{ name := "keep-deadstore", help := "keep writes that are overwritten before use" },
     { name := "no-tag-prim"
       help := "keep PRIM as a register write instead of the GIF tag PRIM field" }]
  arity := .atLeast 1

/-- The passes that a command line leaves switched on. -/
def passes (c : CommandLine) : Passes :=
  let p := Passes.all
  let p := if c.switch "keep-deadstore" then p.without .deadStores else p
  if c.switch "no-tag-prim" then p.without .tagPrim else p

/-- Compiles the scripts with the given names. -/
def work (config : Config) (destination : Destination) (logger : Logger) (names : List String)
    (d : Disk) : Work :=
  match destination.prepare d with
  | .error f => { disk := d, fault := some f }
  | .ok (d, delivery) =>
    let (outcome, out) := compileAll config false (names.map d.input) (List.range names.length) {}
    let settings : Note := { remark := .settings config.target.name config.passes.describe }
    Work.deliver logger (settings :: outcome.notes) outcome out d delivery

/-- Runs the compiler. -/
def run (environment : Option String) (words : List String) (d : Disk) : Report :=
  manual.execute words d fun c =>
    let s := Settings.ofCommandLine defaultBackend c
    match s.config (passes c) with
    | .error f => .error (.settings f)
    | .ok config =>
      .ok (work config (.ofName s.output) { threshold := s.level environment } c.arguments d)

end Compiler

end RegisterScript
