import RegisterScript.CommandLine.Manual
import RegisterScript.Destination
import RegisterScript.Log.Logger

/-!
# Running a tool

A tool is a function from its command line, one variable of the environment and the disk to a
`Report`: the two output streams, the exit code and the disk as it is left.

What the tools that read flags have in common is here: the answers to misuse and to requests for
help and version, and the end of a run, in which the output is delivered and the file of a failed
run is taken away.
-/

namespace RegisterScript

/-- What the run of a tool leaves behind. -/
structure Report where
  exit : Nat
  stdout : Bytes := []
  stderr : String := ""
  disk : Disk

/-- The work of a tool once its command line is accepted. -/
structure Work where
  /-- What went to the standard output. -/
  stdout : Bytes := []
  /-- What was logged. -/
  log : String := ""
  disk : Disk
  fault : Option Fault := none

/-- The work of a run that leaves `outcome` and `out`, with the output delivered. -/
def Work.deliver (logger : Logger) (notes : List Note) (outcome : Outcome (List String))
    (out : Output) (d : Disk) (delivery : Delivery) : Work :=
  let fault := faultOf outcome.result
  { stdout := delivery.shown out.contents
    log := logger.render notes
    disk := delivery.finished (delivery.written d out.contents) fault.isSome
    fault := fault }

/-- How an error is shown. -/
def errorLine (message : String) : String := "Error: " ++ message ++ "\n"

namespace Manual

/-- The answer to a misuse: the error, the usage and an empty line. -/
def refuse (m : Manual) (d : Disk) (misuse : Misuse) : Report :=
  { exit := 1, stderr := errorLine misuse.message ++ m.usage ++ "\n", disk := d }

/-- Runs a tool on a command line; `work` does what the tool is for. -/
def execute (m : Manual) (words : List String) (d : Disk)
    (work : CommandLine → Except Misuse Work) : Report :=
  match m.request words with
  | .error misuse => m.refuse d misuse
  | .ok .help => { exit := 0, stdout := Utf8.encode m.helpText, disk := d }
  | .ok .version => { exit := 0, stdout := Utf8.encode m.versionText, disk := d }
  | .ok (.run c) =>
    match work c with
    | .error misuse => m.refuse d misuse
    | .ok w =>
      match w.fault with
      | none => { exit := 0, stdout := w.stdout, stderr := w.log, disk := w.disk }
      | some f =>
        { exit := 1, stdout := w.stdout, stderr := w.log ++ errorLine f.message, disk := w.disk }

end Manual

end RegisterScript
