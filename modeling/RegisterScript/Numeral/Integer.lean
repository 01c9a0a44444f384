import RegisterScript.Text.Quoted

/-!
# Whole numbers in 32 bits

Reading goes digit by digit from the left and stops at the first thing that is wrong: a
character that is no digit of the base, or the digit that takes the value past 32 bits.  Which
of the two a text is refused for therefore depends on which comes first.

* `readUnsigned base cs` reads a value below 2^32.
* `readNegative cs` reads the digits behind a minus sign, down to -2^31, as a wrapped cell.

`Error` records which kind of number was expected and what is wrong with the text.
-/

namespace RegisterScript

namespace Numeral

/-- What is wrong with the text of a number. -/
inductive Flaw where
  /-- The text does not have the form of a number. -/
  | malformed
  /-- The text has the form so far, but the value does not fit. -/
  | outOfRange
  deriving DecidableEq, Repr

/-- The kind of number that was expected. -/
inductive Kind where
  | unsigned
  | signed
  | floating
  deriving DecidableEq, Repr

/-- A text refused as a number. -/
structure Error where
  kind : Kind
  text : String
  flaw : Flaw
  deriving DecidableEq, Repr

/-- The wording of a flaw. -/
def Flaw.message : Flaw → String
  | .malformed => "invalid syntax"
  | .outOfRange => "value out of range"

/-- The name under which a kind of number is reported. -/
def Kind.readerName : Kind → String
  | .unsigned => "ParseUint"
  | .signed => "ParseInt"
  | .floating => "ParseFloat"

/-- The wording of a refusal. -/
def Error.message (e : Error) : String :=
  "strconv." ++ e.kind.readerName ++ ": parsing " ++ Text.quoted e.text ++ ": " ++ e.flaw.message

/-- The value of `c` as a digit of `base`, at most sixteen. -/
def digitValue? (base : Nat) (c : Char) : Option Nat :=
  let n := c.toNat
  let value? : Option Nat :=
    if 0x30 ≤ n ∧ n ≤ 0x39 then some (n - 0x30)
    else if 0x61 ≤ n ∧ n ≤ 0x66 then some (n - 0x61 + 10)
    else if 0x41 ≤ n ∧ n ≤ 0x46 then some (n - 0x41 + 10)
    else none
  value?.filter (· < base)

/-- The number of values of 32 bits. -/
def cellValues : Nat := 0x100000000

/-- Reads on with the digits `cs`, `n` being the value of the digits before them. -/
def readDigits (base : Nat) : Nat → List Char → Except Flaw Nat
  | n, [] => .ok n
  | n, c :: cs =>
    match digitValue? base c with
    | none => .error .malformed
    | some d =>
      if n * base + d < cellValues then readDigits base (n * base + d) cs else .error .outOfRange

/-- The value below 2^32 of at least one digit of `base`. -/
def readUnsigned (base : Nat) : List Char → Except Flaw Nat
  | [] => .error .malformed
  | cs => readDigits base 0 cs

/-- The cell for minus the number that `cs` spells; the magnitude may be 2^31 at most. -/
def readNegative (cs : List Char) : Except Flaw UInt32 := do
  let n ← readUnsigned 10 cs
  if 2 * n ≤ cellValues then .ok (0 - UInt32.ofNat n) else .error .outOfRange

end Numeral

end RegisterScript
