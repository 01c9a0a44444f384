import RegisterScript.Text.Quoted
import RegisterScript.Text.Basic

/-!
# Flags

A command line is a list of words.  Some are flags, which set something by name, and the others are
arguments; the two may be mixed freely.

* `--name=value` and `--name value` set a text; `--name` sets a switch, and a switch takes a value
  only behind an equals sign.
* `-x` is short for the flag with that letter.  Letters of switches can be run together; a letter
  that takes a text takes what is left of the word, or the next word if nothing is left.
* A lone `-` is an argument, and everything behind `--` is.

Of several values for one flag the last counts.  `CommandLine.read` stops at the first word it
cannot make sense of.
-/

namespace RegisterScript

/-- What a flag sets. -/
inductive FlagKind where
  /-- On or off, and off unless set. -/
  | switch
  /-- A text, with the one it has unless set. -/
  | text (default : String)
  deriving DecidableEq, Repr

/-- A flag that a tool knows. -/
structure Flag where
  name : String
  letter : Option Char := none
  kind : FlagKind := .switch
  help : String
  deriving DecidableEq, Repr

/-- A flag as it is written, the letter first. -/
def Flag.spelling (f : Flag) : String :=
  match f.letter with
  | some c => "-" ++ String.singleton c ++ ", --" ++ f.name
  | none => "--" ++ f.name

/-- What a flag has been set to. -/
inductive FlagValue where
  | switch (on : Bool)
  | text (value : String)
  deriving DecidableEq, Repr

/-- Why a word of a command line makes no sense. -/
inductive FlagError where
  /-- Nothing that could be a name stands behind the dashes. -/
  | noName (word : String)
  /-- No flag has the name. -/
  | unknownName (name : String)
  /-- No flag has the letter at the head of these. -/
  | unknownLetter (letter : Char) (letters : String)
  /-- The word ends the line, and its flag takes a text. -/
  | valueMissing (word : String)
  /-- The letters end the line, and the last of them takes a text. -/
  | letterValueMissing (letter : Char) (letters : String)
  /-- A switch is neither on nor off. -/
  | notSwitchValue (flag : Flag) (value : String)
  /-- Help is asked for, and there is no flag for it. -/
  | helpWanted
  deriving DecidableEq, Repr

/-- The character that stands for a letter in error messages: the first byte of its encoding, read
as a code point. -/
def firstByteOf (c : Char) : Char := Char.ofNat ((String.utf8EncodeChar c).headD 0).toNat

/-- The wording of an error. -/
def FlagError.message : FlagError → String
  | noName word => "bad flag syntax: " ++ word
  | unknownName name => "unknown flag: --" ++ name
  | unknownLetter letter letters =>
    "unknown shorthand flag: " ++ Text.quotedChar (firstByteOf letter) ++ " in -" ++ letters
  | valueMissing word => "flag needs an argument: " ++ word
  | letterValueMissing letter letters =>
    "flag needs an argument: " ++ Text.quotedChar letter ++ " in -" ++ letters
  | notSwitchValue flag value =>
    "invalid argument " ++ Text.quoted value ++ " for " ++ Text.quoted flag.spelling
      ++ " flag: strconv.ParseBool: parsing " ++ Text.quoted value ++ ": invalid syntax"
  | helpWanted => "pflag: help requested"

/-- The state that a text means for a switch. -/
def switchValue? (value : String) : Option Bool :=
  if value ∈ ["1", "t", "T", "TRUE", "true", "True"] then some true
  else if value ∈ ["0", "f", "F", "FALSE", "false", "False"] then some false
  else none

/-- What a flag is set to by a value. -/
def Flag.setTo (f : Flag) (value : String) : Except FlagError (Flag × FlagValue) :=
  match f.kind with
  | .text _ => .ok (f, .text value)
  | .switch =>
    match switchValue? value with
    | some on => .ok (f, .switch on)
    | none => .error (.notSwitchValue f value)

/-- What a word of a command line does. -/
inductive WordReading where
  /-- It is an argument. -/
  | argument
  /-- No flags follow. -/
  | endOfFlags
  /-- It sets flags. -/
  | sets (values : List (Flag × FlagValue))
  /-- It sets flags, and the next word is the value of one more; if there is none, that is the
  error. -/
  | awaits (values : List (Flag × FlagValue)) (flag : Flag) (missing : FlagError)

/-- A word that starts with two dashes; `body` is what stands behind them. -/
def readLong (flags : List Flag) (word : String) (body : List Char) :
    Except FlagError WordReading :=
  let (name, value) := Text.cut '=' body
  let name := String.ofList name
  -- A third dash, or an equals sign right behind the dashes, leaves no name.
  if body.head? = some '-' ∨ name = "" then .error (.noName word)
  else match flags.find? (·.name = name), value with
    | none, _ => .error (if name = "help" then .helpWanted else .unknownName name)
    | some f, some value => (f.setTo (String.ofList value)).map fun v => .sets [v]
    | some f, none =>
      match f.kind with
      | .switch => .ok (.sets [(f, .switch true)])
      | .text _ => .ok (.awaits [] f (.valueMissing word))

/-- The letters behind a single dash; `values` are what the letters before them set, newest
first. -/
def readLetters (flags : List Flag) (values : List (Flag × FlagValue)) :
    List Char → Except FlagError WordReading
  | [] => .ok (.sets values.reverse)
  | c :: rest =>
    let letters := String.ofList (c :: rest)
    -- Words that start like this are for whoever tests the tool; they are passed over.
    if "test.".toList.isPrefixOf (c :: rest) then .ok (.sets values.reverse)
    else match flags.find? (·.letter = some c) with
      | none => .error (if c = 'h' then .helpWanted else .unknownLetter c letters)
      | some f =>
        match rest, f.kind with
        | '=' :: d :: value, _ =>
          (f.setTo (String.ofList (d :: value))).map fun v => .sets (v :: values).reverse
        | _, .switch => readLetters flags ((f, .switch true) :: values) rest
        | [], .text _ => .ok (.awaits values.reverse f (.letterValueMissing c letters))
        | _, .text _ => .ok (.sets ((f, .text (String.ofList rest)) :: values).reverse)

/-- What a word does. -/
def readWord (flags : List Flag) (word : String) : Except FlagError WordReading :=
  match word.toList with
  | ['-', '-'] => .ok .endOfFlags
  | '-' :: '-' :: body => readLong flags word body
  | '-' :: c :: rest => readLetters flags [] (c :: rest)
  | _ => .ok .argument

/-- A command line that has been read. -/
structure CommandLine where
  /-- What was set, newest first. -/
  settings : List (Flag × FlagValue) := []
  /-- The arguments, in order. -/
  arguments : List String := []
  deriving DecidableEq, Repr

namespace CommandLine

/-- Notes what has been set, in order. -/
def setAll (c : CommandLine) (values : List (Flag × FlagValue)) : CommandLine :=
  { c with settings := values.reverse ++ c.settings }

/-- Adds arguments. -/
def addArguments (c : CommandLine) (words : List String) : CommandLine :=
  { c with arguments := c.arguments ++ words }

/-- Reads on. -/
def readFrom (flags : List Flag) (c : CommandLine) : List String → Except FlagError CommandLine
  | [] => .ok c
  | word :: rest =>
    match readWord flags word with
    | .error e => .error e
    | .ok .argument => readFrom flags (c.addArguments [word]) rest
    | .ok .endOfFlags => .ok (c.addArguments rest)
    | .ok (.sets values) => readFrom flags (c.setAll values) rest
    | .ok (.awaits values f missing) =>
      match rest with
      | [] => .error missing
      | value :: rest =>
        match f.setTo value with
        | .error e => .error e
        | .ok v => readFrom flags (c.setAll (values ++ [v])) rest

/-- Reads a whole command line. -/
def read (flags : List Flag) (words : List String) : Except FlagError CommandLine :=
  readFrom flags {} words

/-- What a flag was last set to. -/
def value? (c : CommandLine) (name : String) : Option FlagValue :=
  (c.settings.find? (·.1.name = name)).map (·.2)

/-- Whether a switch is on. -/
def switch (c : CommandLine) (name : String) : Bool :=
  match c.value? name with
  | some (.switch on) => on
  | _ => false

/-- The text that a flag has, which is `default` unless it was set. -/
def text (c : CommandLine) (name default : String) : String :=
  match c.value? name with
  | some (.text value) => value
  | _ => default

/-- The flags of a group that have been set, to whatever value, in the order of their names. -/
def given (c : CommandLine) (group : List String) : List String :=
  (group.filter fun name => (c.value? name).isSome).mergeSort fun a b => decide (¬ b < a)

end CommandLine

end RegisterScript
