import RegisterScript.Text.CharacterClass
import RegisterScript.Text.Basic
import RegisterScript.Text.Quoted

/-!
# Severity levels

Every message has one of four levels; a logger has a threshold, and the fifth level, `silent`, is a
threshold that lets nothing through.
-/

namespace RegisterScript

/-- How much a message matters, or how much a logger lets through. -/
inductive Level where
  | debug
  | info
  | warn
  | error
  | silent
  deriving DecidableEq, Repr

namespace Level

/-- All levels, in increasing order. -/
def all : List Level := [debug, info, warn, error, silent]

/-- The position of a level in the order. -/
def rank : Level → Nat
  | debug => 0
  | info => 1
  | warn => 2
  | error => 3
  | silent => 4

/-- The name of a level. -/
def name : Level → String
  | debug => "debug"
  | info => "info"
  | warn => "warn"
  | error => "error"
  | silent => "silent"

/-- The mark of a level at the head of a line; all marks are equally wide. -/
def mark : Level → String
  | debug => "DEBUG"
  | info => "INFO "
  | warn => "WARN "
  | error => "ERROR"
  | silent => ""

/-- The name of the level with a given rank, or the bare number if there is none. -/
def describeRank (rank : Int) : String :=
  match all.find? fun l => (l.rank : Int) == rank with
  | some l => l.name
  | none => "level(" ++ Text.signedDecimal rank ++ ")"

/-- The level that a text names, in any letter case and with blanks around it.  Some levels have
second names. -/
def ofName? (text : String) : Option Level :=
  match String.ofList ((Text.trim text.toList).map Text.lowerCase) with
  | "debug" => some debug
  | "info" => some info
  | "warn" | "warning" => some warn
  | "error" => some error
  | "silent" | "off" | "none" => some silent
  | _ => none

/-- The wording for a text that names no level. -/
def unknownMessage (text : String) : String := "unknown log level " ++ Text.quoted text

/-- The level that a setting names; `default` if there is no setting or it names none. -/
def ofSetting (default : Level) (setting : Option String) : Level :=
  (setting.bind ofName?).getD default

end Level

end RegisterScript
