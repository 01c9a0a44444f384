import RegisterScript.Log.Note

/-!
# Loggers

A logger turns notes into lines.  It has a threshold and a scope, the names of what is being worked
on joined by colons; entering a scope that has no name yet replaces it, entering any other appends
to it, even if the new name is empty.
-/

namespace RegisterScript

/-- What is shown, and under which scope. -/
structure Logger where
  threshold : Level
  scope : String := ""
  deriving DecidableEq, Repr

namespace Logger

/-- The logger that shows nothing. -/
def discard : Logger := ⟨.silent, ""⟩

/-- The logger for work on `name` within the present scope. -/
def enter (l : Logger) (name : String) : Logger :=
  { l with scope := if l.scope = "" then name else l.scope ++ ": " ++ name }

/-- Whether messages of a level are shown. -/
def enabled (l : Logger) (level : Level) : Bool :=
  decide (l.threshold.rank ≤ level.rank) && decide (level.rank < Level.silent.rank)

/-- `text`, ended by a newline unless it is already. -/
def endLine (text : String) : String :=
  if text.toList.getLast? = some '\n' then text else text ++ "\n"

/-- The line for a message; nothing if its level is not shown. -/
def line (l : Logger) (level : Level) (text : String) : String :=
  if l.enabled level then
    endLine ("[" ++ level.mark ++ "] " ++ (if l.scope = "" then "" else l.scope ++ ": ") ++ text)
  else ""

/-- The line for a note. -/
def renderNote (l : Logger) (n : Note) : String :=
  -- The level is tested first so that an unseen listing is never laid out.
  if l.enabled n.remark.level then
    (n.scope.foldl enter l).line n.remark.level n.remark.text
  else ""

/-- The lines for notes, in order. -/
def render (l : Logger) (notes : List Note) : String := String.join (notes.map l.renderNote)

end Logger

end RegisterScript
