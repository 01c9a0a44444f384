import RegisterScript.CommandLine.Flag
import RegisterScript.Compile

/-!
# Settings of the tools

The compiler and the disassembler share five flags: where the output goes, in which format and
style, and how much is logged.
-/

namespace RegisterScript

/-- The flags that both tools have; only the format they write by default differs. -/
def sharedFlags (backend : String) : List Flag :=
  [{ name := "output", letter := some 'o', kind := .text ""
     help := "output file name (default stdout)" },
   { name := "backend", letter := some 'b', kind := .text backend
     help := "backend: " ++ ", ".intercalate Target.names },
   { name := "emit-mode", kind := .text "defs", help := "c_code emit mode: defs or magic" },
   { name := "verbose", letter := some 'v', help := "log every step" },
   { name := "quiet", letter := some 'q', help := "log errors only" }]

/-- The flags of which at most one may be set. -/
def exclusiveFlags : List String := ["verbose", "quiet"]

/-- What the shared flags say. -/
structure Settings where
  output : String
  backend : String
  emitMode : String
  verbose : Bool
  quiet : Bool
  deriving DecidableEq, Repr

namespace Settings

/-- The settings on a command line. -/
def ofCommandLine (backend : String) (c : CommandLine) : Settings where
  output := c.text "output" ""
  backend := c.text "backend" backend
  emitMode := c.text "emit-mode" "defs"
  verbose := c.switch "verbose"
  quiet := c.switch "quiet"

/-- How much is logged: the flags come first, then the environment, then warnings and worse. -/
def level (s : Settings) (environment : Option String) : Level :=
  if s.verbose then .debug
  else if s.quiet then .error
  else Level.ofSetting .warn environment

/-- The settings of the run itself. -/
def config (s : Settings) (passes : Passes) : Except Fault Config := do
  let target ← Target.ofName s.backend
  let mode ← EmitMode.ofName s.emitMode
  return { target := target, mode := mode, passes := passes }

end Settings

end RegisterScript
