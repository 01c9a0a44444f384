import RegisterScript.Device
import RegisterScript.Text.Quoted

/-!
# Tokens and where they stand

A script is read as tokens: names, numbers, the one keyword, and four marks.  Each token knows
where it starts, so that everything said about it later can be said at that place.

Lines and columns count from one, columns in characters; a newline ends its line.
-/

namespace RegisterScript

/-- A place in a text. -/
structure Position where
  line : Nat := 1
  column : Nat := 1
  deriving DecidableEq, Repr

namespace Position

/-- The place behind a character. -/
def advance (p : Position) (c : Char) : Position :=
  if c = '\n' then ⟨p.line + 1, 1⟩ else ⟨p.line, p.column + 1⟩

/-- The place behind a text. -/
def advanceBy (p : Position) (cs : List Char) : Position := cs.foldl advance p

end Position

/-- A place in a named text. -/
structure Location where
  file : String
  position : Position
  deriving DecidableEq, Repr

/-- A place as text; without a file name only line and column are shown. -/
def Location.render (l : Location) : String :=
  (if l.file = "" then "" else l.file ++ ":")
    ++ Text.decimal l.position.line ++ ":" ++ Text.decimal l.position.column

/-- The kinds of token. -/
inductive TokenKind where
  | endOfInput
  | identifier
  | number
  | keyword
  | punctuation
  deriving DecidableEq, Repr

namespace TokenKind

/-- All kinds, in the order of their numbers. -/
def all : List TokenKind := [endOfInput, identifier, number, keyword, punctuation]

/-- The name of a kind. -/
def name : TokenKind → String
  | endOfInput => "EOF"
  | identifier => "IDENT"
  | number => "NUMBER"
  | keyword => "KEYWORD"
  | punctuation => "PUNCTUATION"

/-- The name of the kind with a number. -/
def describeNumber : Int → String
  | .ofNat n => ((all[n]?).map name).getD "UNKNOWN"
  | .negSucc _ => "UNKNOWN"

end TokenKind

/-- A token with its text and the place where it starts. -/
structure Token where
  kind : TokenKind
  text : String
  location : Location
  deriving DecidableEq, Repr

namespace Token

/-- A token as error messages show it. -/
def describe (t : Token) : String :=
  if t.text = "" then "<" ++ t.kind.name ++ ">"
  else "<" ++ t.kind.name ++ " " ++ Text.quoted t.text ++ ">"

/-- Whether the token is the given mark. -/
def isMark (t : Token) (mark : String) : Bool := t.kind = .punctuation && t.text = mark

end Token

/-- A script as it comes from a device. -/
structure Source where
  /-- The name by which places in the script are reported. -/
  name : String
  text : List Char
  ending : Ending := .complete
  deriving DecidableEq, Repr

/-- The script with the given bytes. -/
def Source.ofBytes (name : String) (bytes : Bytes) (ending : Ending) : Source :=
  ⟨name, Utf8.decode bytes, ending⟩

end RegisterScript
