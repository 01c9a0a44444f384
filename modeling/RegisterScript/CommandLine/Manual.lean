import RegisterScript.CommandLine.Settings

/-!
# What a tool says about itself

A `Manual` describes a tool that reads flags: its name, what it is for, its flags and how many
arguments it takes.  From it come the usage text and everything that is decided before the tool
does any work: `Manual.request` reads a command line and finds it asking for help, for the version
or for a run, or finds it misused.
-/

namespace RegisterScript

/-- How many arguments a tool takes. -/
inductive Arity where
  | atLeast (n : Nat)
  | exactly (n : Nat)
  deriving DecidableEq, Repr

/-- Why a tool refuses its command line.  All of these are answered with the usage text. -/
inductive Misuse where
  | flag (cause : FlagError)
  | tooFewArguments (least given : Nat)
  | wrongArguments (expected given : Nat)
  /-- Several flags of a group are set of which at most one may be. -/
  | exclusive (group given : List String)
  /-- A flag names something unknown. -/
  | settings (cause : Fault)
  deriving DecidableEq, Repr

/-- Names in brackets, between blanks. -/
def bracketed (names : List String) : String := "[" ++ " ".intercalate names ++ "]"

/-- The wording of a misuse. -/
def Misuse.message : Misuse → String
  | flag cause => cause.message
  | tooFewArguments least given =>
    "requires at least " ++ Text.decimal least ++ " arg(s), only received " ++ Text.decimal given
  | wrongArguments expected given =>
    "accepts " ++ Text.decimal expected ++ " arg(s), received " ++ Text.decimal given
  | exclusive group given =>
    "if any flags in the group " ++ bracketed group ++ " are set none of the others can be; "
      ++ bracketed given ++ " were all set"
  | settings cause => cause.message

/-- Whether a number of arguments is right. -/
def Arity.check (given : Nat) : Arity → Option Misuse
  | atLeast n => if given < n then some (.tooFewArguments n given) else none
  | exactly n => if given = n then none else some (.wrongArguments n given)

/-- Refuses a command line that sets several flags of a group. -/
def CommandLine.checkExclusive (c : CommandLine) (group : List String) : Option Misuse :=
  let given := c.given group
  if 1 < given.length then some (.exclusive group given) else none

/-- A tool's description of itself. -/
structure Manual where
  name : String
  /-- What the tool is for, in one sentence. -/
  purpose : String
  /-- What may stand behind the name on a command line. -/
  synopsis : String
  /-- The flags besides those for help and version. -/
  ownFlags : List Flag
  arity : Arity

namespace Manual

/-- All flags of a tool. -/
def flags (m : Manual) : List Flag :=
  m.ownFlags ++
    [{ name := "help", letter := some 'h', help := "help for " ++ m.name },
     { name := "version", help := "version for " ++ m.name }]

/-- The left column of a flag's line: how it is written, and the kind of its value. -/
def flagHead (f : Flag) : String :=
  (if f.letter.isSome then "  " else "      ") ++ f.spelling ++
    match f.kind with
    | .switch => ""
    | .text _ => " string"

/-- The right column of a flag's line: what it is for, and what it is unless set. -/
def flagBody (f : Flag) : String :=
  f.help ++
    match f.kind with
    | .switch | .text "" => ""
    | .text default => " (default " ++ Text.quoted default ++ ")"

/-- The lines on the flags in the order of their names, the right column three blanks behind the
longest entry of the left. -/
def flagLines (m : Manual) : List String :=
  let sorted := m.flags.mergeSort fun a b => decide (¬ b.name < a.name)
  let width := (sorted.map fun f => (flagHead f).length).foldl max 0
  sorted.map fun f =>
    String.ofList ((flagHead f).toList.rightpad (width + 3) ' ') ++ flagBody f

/-- How the tool is used. -/
def usage (m : Manual) : String :=
  String.join ((["Usage:", "  " ++ m.name ++ " " ++ m.synopsis, "", "Flags:"] ++ m.flagLines).map
    (· ++ "\n"))

/-- What the tool prints when asked for help. -/
def helpText (m : Manual) : String := m.purpose ++ "\n\n" ++ m.usage

/-- What the tool prints when asked for its version. -/
def versionText (m : Manual) : String :=
  m.name ++ " version " ++ RegisterScript.version ++ "\n"

/-- What a command line asks for. -/
inductive Request where
  | help
  | version
  | run (c : CommandLine)

/-- Finds out what a command line asks for.  Flags must make sense before help is given; help and
version are given whatever the arguments are. -/
def request (m : Manual) (words : List String) : Except Misuse Request :=
  match CommandLine.read m.flags words with
  | .error e => .error (.flag e)
  | .ok c =>
    if c.switch "help" then .ok .help
    else if c.switch "version" then .ok .version
    else match m.arity.check c.arguments.length <|> c.checkExclusive exclusiveFlags with
      | some misuse => .error misuse
      | none => .ok (.run c)

end Manual

end RegisterScript
