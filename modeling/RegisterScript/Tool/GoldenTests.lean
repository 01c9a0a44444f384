import RegisterScript.Tool.Report

/-!
# Golden tests

Compiles the scripts in the directory `tests` with the compiler's own settings and compares each
output with the file in which it is recorded.

A script anywhere below the directory is a case if the directory itself holds a recorded output of
the same name.  The cases run in the order of their names, or only the one that the first argument
names: in full, as a file, or by what stands before the first underscore.  An output that differs is
left beside the recorded one for inspection.
-/

namespace RegisterScript.GoldenTests

/-- The directory of the cases. -/
def directory : String := "tests"

/-- `text` without an ending, if it has it. -/
def withoutEnding? (ending text : String) : Option String :=
  let cs := text.toList
  let tail := ending.toList
  if tail.isSuffixOf cs then some (String.ofList (cs.take (cs.length - tail.length))) else none

/-- `text` without a beginning, if it has it. -/
def withoutBeginning? (beginning text : String) : Option String :=
  let cs := text.toList
  let head := beginning.toList
  if head.isPrefixOf cs then some (String.ofList (cs.drop head.length)) else none

/-- A script with its recorded output. -/
structure Case where
  name : String
  /-- The name of the script on the disk. -/
  source : String
  deriving DecidableEq, Repr

namespace Case

/-- The name of the recorded output. -/
def expected (c : Case) : String := directory ++ "/" ++ c.name ++ ".out"

/-- The name under which an output that differs is left. -/
def actual (c : Case) : String := directory ++ "/" ++ c.name ++ ".actual"

/-- The case of the script that the steps below the directory lead to. -/
def ofSteps? (d : Disk) (below : List String) : Option Case := do
  let name ← withoutEnding? ".gs" (← below.getLast?)
  let c : Case := ⟨name, "/".intercalate (directory :: below)⟩
  if d.has c.expected then return c else none

end Case

/-- All cases, in the order of their names. -/
def discover (d : Disk) : Except DeviceError (List Case) := do
  let (top, _) ← d.find "lstat" directory
  let cases := (d.filesBelow top).filterMap fun p => Case.ofSteps? d (p.drop top.length)
  return cases.mergeSort fun a b => decide (¬ b.name < a.name)

/-- The case that an argument names; if there is none, what was looked for. -/
def select (cases : List Case) (argument : String) : Except String Case :=
  let file := withoutEnding? ".gs" argument
  if '/' ∈ argument.toList ∨ file.isSome then
    let name := file.getD argument
    let name := (withoutBeginning? (directory ++ "/") name).getD name
    match cases.find? (·.name = name) with
    | some c => .ok c
    | none => .error name
  else
    match cases.find? fun c =>
        c.name = argument || (withoutBeginning? (argument ++ "_") c.name).isSome with
    | some c => .ok c
    | none => .error argument

/-- How a case fails. -/
inductive Failure where
  | compilation (cause : Fault)
  | noExpectation (cause : DeviceError)
  /-- The output differs; it was left under the name, or could not be. -/
  | mismatch (left : String) (trouble : Option DeviceError)
  deriving DecidableEq, Repr

/-- The wording of a failure. -/
def Failure.message : Failure → String
  | compilation cause => "compilation error: " ++ cause.message
  | noExpectation cause => "error reading expected output: " ++ cause.message
  | mismatch left none => "output mismatch, see " ++ left
  | mismatch left (some e) =>
    "output mismatch, and writing " ++ left ++ " failed: " ++ e.message

/-- What running a case shows. -/
structure Verdict where
  failure : Option Failure
  notes : List Note
  disk : Disk

/-- The settings under which the cases are compiled. -/
def config : Config := { passes := .all }

/-- Compares an output with the recorded one. -/
def compare (c : Case) (output : Bytes) (d : Disk) : Option Failure × Disk :=
  match d.readFile c.expected with
  | .error e => (some (.noExpectation e), d)
  | .ok expected =>
    if output = expected then (none, d)
    else match d.create c.actual with
      | .error e => (some (.mismatch c.actual (some e)), d)
      | .ok (d, p) => (some (.mismatch c.actual none), d.set p (.file output))

/-- Runs a case. -/
def Case.run (c : Case) (d : Disk) : Verdict :=
  let (outcome, out) := compileAll config false [d.input c.source] [0] {}
  let (failure, d) := match outcome.result with
    | .error f => (some (Failure.compilation f), d)
    | .ok _ => compare c out.contents d
  ⟨failure, outcome.notes, d⟩

/-- Runs cases one after the other; the disk is as the last one leaves it. -/
def runAll (d : Disk) : List Case → List (Case × Verdict) × Disk
  | [] => ([], d)
  | c :: cases =>
    let v := c.run d
    let (verdicts, d) := runAll v.disk cases
    ((c, v) :: verdicts, d)

/-- The line on a case. -/
def verdictLine (c : Case) (v : Verdict) : String :=
  "Running test " ++ c.name ++ "... " ++
    match v.failure with
    | none => "PASS\n"
    | some f => "FAIL - " ++ f.message ++ "\n"

/-- The line at the end. -/
def summary (passed failed : Nat) : String :=
  "Test Results: " ++ Text.decimal passed ++ " passed" ++
    (if failed = 0 then ". All good!\n" else ", " ++ Text.decimal failed ++ " failed\n")

/-- Runs the chosen cases under a heading. -/
def report (environment : Option String) (heading : String) (cases : List Case) (d : Disk) :
    Report :=
  let logger : Logger := { threshold := .ofSetting .silent environment }
  let (verdicts, d) := runAll d cases
  let failed := verdicts.countP fun v => v.2.failure.isSome
  let lines := verdicts.map fun v => verdictLine v.1 v.2
  { exit := if failed = 0 then 0 else 1
    stdout := Utf8.encode
      (heading ++ "\n" ++ String.join lines ++ summary (verdicts.length - failed) failed)
    stderr := String.join (verdicts.map fun v => logger.render v.2.notes)
    disk := d }

/-- Runs the golden tests. -/
def run (environment : Option String) (words : List String) (d : Disk) : Report :=
  match discover d with
  | .error e => { exit := 1, stderr := "Error discovering tests: " ++ e.message ++ "\n", disk := d }
  | .ok [] =>
    { exit := 0, stdout := Utf8.encode "No tests found in tests/ directory\n", disk := d }
  | .ok cases =>
    match words with
    | [] =>
      let count := if cases.length = 1 then "1 test" else Text.decimal cases.length ++ " tests"
      report environment ("Found " ++ count) cases d
    | argument :: _ =>
      match select cases argument with
      | .error name => { exit := 1, stderr := errorLine ("test not found: " ++ name), disk := d }
      | .ok c => report environment ("Running specific test: " ++ c.name) [c] d

end RegisterScript.GoldenTests
