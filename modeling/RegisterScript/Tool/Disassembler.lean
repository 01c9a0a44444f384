import RegisterScript.Tool.Report

/-!
# The disassembler

Turns a packet stream back into a script, or into any other format.  No clean-up pass runs unless it
is switched on.

The input is opened before the output is made ready, but read after it: an input that is missing
leaves no output behind, and an input that is also the output is empty by the time it is read.
-/

namespace RegisterScript.Disassembler

/-- The format written by default. -/
def defaultBackend : String := "gifscript"

/-- What the disassembler says about itself. -/
def manual : Manual where
  name := "tpircsfig"
  purpose := "Turn a raw GIF packet stream back into GIFScript or any other backend."
  synopsis := "[flags] <file.bin>"
  ownFlags := sharedFlags defaultBackend ++
    [{ name := "dead-store", help := "drop writes that are overwritten before use" },
     { name := "tag-prim", help := "fold the first PRIM write back into the GIF tag" }]
  arity := .exactly 1

/-- The passes that a command line switches on. -/
def passes (c : CommandLine) : Passes :=
  let p := Passes.none
  let p := if c.switch "dead-store" then p.union .deadStores else p
  if c.switch "tag-prim" then p.union .tagPrim else p

/-- Disassembles the stream with the given name. -/
def work (config : Config) (destination : Destination) (logger : Logger) (name : String)
    (d : Disk) : Work :=
  match d.find "open" name with
  | .error e => { disk := d, fault := some (.openingInput (.device e)) }
  | .ok (p, _) =>
    match destination.prepare d with
    | .error f => { disk := d, fault := some f }
    | .ok (d, delivery) =>
      let (bytes, ending) := ((d.node? p).getD .directory).read name
      let (outcome, out) := disassembleTo config false name bytes ending {}
      Work.deliver logger outcome.notes outcome out d delivery

/-- Runs the disassembler. -/
def run (environment : Option String) (words : List String) (d : Disk) : Report :=
  manual.execute words d fun c =>
    let s := Settings.ofCommandLine defaultBackend c
    match s.config (passes c) with
    | .error f => .error (.settings f)
    | .ok config =>
      .ok (work config (.ofName s.output) { threshold := s.level environment }
        (c.arguments.headD "") d)

end RegisterScript.Disassembler
