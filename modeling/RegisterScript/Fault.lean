import RegisterScript.Machine
import RegisterScript.Packet.Stream
import RegisterScript.Token.Scanner

/-!
# Faults

Everything that can end a run early, as one type.  A fault is a cause, possibly wrapped in what was
being done when it struck; the wording follows the wrapping from the outside in.
-/

namespace RegisterScript

/-- How the tokens of a script fail to form one. -/
inductive GrammarError where
  /-- A definition was expected. -/
  | notDefinition (got : Token)
  /-- The name of a macro was expected. -/
  | notMacroName (got : Token)
  /-- A particular mark was expected. -/
  | notMark (mark : String) (got : Token)
  /-- A statement was expected. -/
  | notStatement (got : Token)
  /-- The script ends inside a container. -/
  | endInside (container : String)
  /-- An argument or the end of a statement was expected. -/
  | notArgument (got : Token)
  /-- A name stands where only a modifier can, and is none. -/
  | unknownModifier (name : String)
  /-- An offset or the end of an insertion was expected. -/
  | notOffset (head : String) (got : Token)
  /-- An offset has another number of components than two. -/
  | offsetArity (count : Nat)
  /-- A comma is not followed by a number. -/
  | notNumber (got : Token)
  deriving DecidableEq, Repr

/-- The wording of a grammar error. -/
def GrammarError.message : GrammarError → String
  | notDefinition got => "expected block or macro definition, got " ++ got.describe
  | notMacroName got => "expected macro name, got " ++ got.describe
  | notMark mark got => "expected '" ++ mark ++ "', got " ++ got.describe
  | notStatement got => "expected register or macro name, got " ++ got.describe
  | endInside container => "unexpected end of file in " ++ container
  | notArgument got => "expected value, modifier or ';', got " ++ got.describe
  | unknownModifier name => "unknown modifier " ++ name
  | notOffset head got => "expected ';' or offset after " ++ head ++ ", got " ++ got.describe
  | offsetArity count =>
    "macro offset must be a Vec2, got " ++ Text.decimal count ++ " components"
  | notNumber got => "expected number after ',', got " ++ got.describe

/-- What ended a run early. -/
inductive Fault where
  /-- The characters of a script are no tokens, or could not be read. -/
  | scan (cause : ScanError)
  /-- The tokens of a script do not form one. -/
  | grammar (cause : GrammarError)
  /-- A number in a script has no value. -/
  | operand (cause : OperandError)
  /-- The machine refused an event. -/
  | machine (cause : MachineError)
  /-- A packet stream is none. -/
  | packet (cause : PacketError)
  /-- A block is too long for its packet. -/
  | tooManyWrites (cause : TooManyWrites)
  /-- A device failed. -/
  | device (cause : DeviceError)
  /-- The run was called off. -/
  | canceled
  /-- Two files define the same block. -/
  | duplicateBlock (file block otherFile : String)
  /-- There is no output format with the number. -/
  | unknownTarget (code : Int)
  /-- There is no output format with the name. -/
  | unknownBackend (name : String)
  /-- There is no style of array with the name. -/
  | unknownEmitMode (name : String)
  /-- Anything else, in words. -/
  | other (message : String)
  /-- The cause lies at a place in a script. -/
  | located (location : Location) (cause : Fault)
  /-- The cause struck while a block was written out. -/
  | emitting (block : String) (cause : Fault)
  /-- The cause struck at the primitive setting in a packet's tag. -/
  | inTagPrim (block : String) (cause : Fault)
  /-- The cause struck at a write of a packet. -/
  | inWrite (block : String) (index : Nat) (cause : Fault)
  /-- The cause lies in a file. -/
  | inFile (name : String) (cause : Fault)
  /-- The output could not be created. -/
  | creatingOutput (cause : Fault)
  /-- The input could not be opened. -/
  | openingInput (cause : Fault)
  /-- Two faults, the first of which came first. -/
  | both (first second : Fault)
  deriving DecidableEq, Repr

/-- The wording of a fault. -/
def Fault.message : Fault → String
  | scan cause => cause.message
  | grammar cause => cause.message
  | operand cause => cause.message
  | machine cause => cause.message
  | packet cause => cause.message
  | tooManyWrites cause => cause.message
  | device cause => cause.message
  | canceled => "context canceled"
  | duplicateBlock file block otherFile =>
    file ++ ": " ++ block ++ " also in " ++ otherFile ++ ": block defined in more than one input"
  | unknownTarget code =>
    -- A number below zero has not even a name to show.
    "unknown target: " ++ match code with
      | .ofNat n => "target(" ++ Text.decimal n ++ ")"
      | .negSucc _ =>
        "%!v(PANIC=String method: runtime error: index out of range ["
          ++ Text.signedDecimal code ++ "])"
  | unknownBackend name => "unknown backend: " ++ name
  | unknownEmitMode name => "unknown emit mode: " ++ name
  | other message => message
  | located location cause => location.render ++ ": " ++ cause.message
  | emitting block cause => "emitting block " ++ block ++ ": " ++ cause.message
  | inTagPrim block cause => block ++ ": tag PRIM: " ++ cause.message
  | inWrite block index cause =>
    block ++ ": write " ++ Text.decimal index ++ ": " ++ cause.message
  | inFile name cause => name ++ ": " ++ cause.message
  | creatingOutput cause => "creating output file: " ++ cause.message
  | openingInput cause => "opening input file: " ++ cause.message
  | both first second => first.message ++ "\n" ++ second.message

/-- The outermost place that a fault names. -/
def Fault.location? : Fault → Option Location
  | located location _ => some location
  | emitting _ cause | inTagPrim _ cause | inWrite _ _ cause | inFile _ cause
  | creatingOutput cause | openingInput cause => cause.location?
  | both first second => first.location? <|> second.location?
  | _ => none

end RegisterScript
