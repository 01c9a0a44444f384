import RegisterScript.Numeral.Binary32
import RegisterScript.Numeral.Integer

/-!
# Numbers with a point

A number with a point is read as an exact ratio and then rounded once to single precision; the
cell holds the bit pattern.  One kind of decimal comes out smaller than it is written: where the
leading nineteen digits leave the rounding open, no more than eight hundred digits before the
point count towards the magnitude.

The text is an optional sign, a mantissa with at most one point, and an optional exponent.  A
mantissa marked `0x` behind the sign is hexadecimal and needs a binary exponent introduced by
`p`; a decimal one may have a decimal exponent introduced by `e`.  Underscores may stand between
digits.  Nothing may be left over.

* `Mantissa.scan` and `scanExponent` consume the two parts.
* `wellSeparated` is the rule on underscores.
* `scaledPattern` is the rounding, and `Mantissa.settled` says when the leading digits decide it.
* `readFloating` puts them together.
-/

namespace RegisterScript

namespace Numeral

/-- The digits of a mantissa read so far. -/
structure Mantissa where
  /-- The digits as one whole number, the point left out. -/
  value : Nat := 0
  /-- How many of the digits stand behind the point. -/
  places : Nat := 0
  /-- Whether the point has been read. -/
  pointed : Bool := false
  /-- Whether there was any digit. -/
  nonempty : Bool := false
  /-- How many digits there are from the first that is not zero on. -/
  significant : Nat := 0

/-- Adds one digit of `base`. -/
def Mantissa.push (base : Nat) (m : Mantissa) (d : Nat) : Mantissa :=
  { m with
    value := m.value * base + d
    places := if m.pointed then m.places + 1 else m.places
    nonempty := true
    significant := if m.value = 0 ∧ d = 0 then 0 else m.significant + 1 }

/-- How many digits stand before the point, leading zeros left out. -/
def Mantissa.whole (m : Mantissa) : Nat :=
  m.significant - m.places

/-- Reads digits of `base`, underscores and the first point; also returns what follows. -/
def Mantissa.scan (base : Nat) : Mantissa → List Char → Mantissa × List Char
  | m, [] => (m, [])
  | m, c :: cs =>
    if c = '_' then scan base m cs
    else if c = '.' ∧ m.pointed = false then scan base { m with pointed := true } cs
    else match digitValue? base c with
      | some d => scan base (m.push base d) cs
      | none => (m, c :: cs)

/-- The digits of an exponent, underscores skipped.  Beyond five digits the value no longer
grows: every such exponent is far outside the range of the format. -/
def exponentValue : Nat → List Char → Option Nat
  | e, [] => some e
  | e, c :: cs =>
    if c = '_' then exponentValue e cs
    else match digitValue? 10 c with
      | some d => exponentValue (if e < 10000 then e * 10 + d else e) cs
      | none => none

/-- An exponent behind its letter: an optional sign, then digits that start with a digit. -/
def scanExponent (cs : List Char) : Option Int :=
  let (negative, digits) := match cs with
    | '+' :: rest => (false, rest)
    | '-' :: rest => (true, rest)
    | _ => (false, cs)
  match digits with
  | c :: _ =>
    if c.isDigit then
      (exponentValue 0 digits).map fun e => if negative then -(e : Int) else e
    else none
  | [] => none

/-- What an underscore is judged by: the character before it. -/
inductive Before where
  | nothing
  | digit
  | underscore
  | other
  deriving DecidableEq

/-- Whether every underscore of `cs` stands between digits of `base`, `before` describing what
precedes `cs`. -/
def wellSeparated (base : Nat) : Before → List Char → Bool
  | before, [] => before ≠ .underscore
  | before, c :: cs =>
    if (digitValue? base c).isSome then wellSeparated base .digit cs
    else if c = '_' then before = .digit && wellSeparated base .underscore cs
    else before ≠ .underscore && wellSeparated base .other cs

/-- The pattern of `value * 2^binary * 10^decimal`, rounded once; whatever is too large for the
format has the pattern of infinity. -/
def scaledPattern (value : Nat) (binary decimal : Int) : Nat :=
  if value = 0 then 0
  else min Binary32.infinity
    (Binary32.ofRatio ((value * Nat.pow 10 decimal.toNat) <<< binary.toNat)
      (Nat.pow 10 (-decimal).toNat <<< (-binary).toNat))

/-- The pattern of `value * 2^binary * 10^decimal` with the given sign, if it is finite. -/
def roundScaled (negative : Bool) (value : Nat) (binary decimal : Int) : Except Flaw UInt32 :=
  let bits := scaledPattern value binary decimal
  if bits < Binary32.infinity then
    .ok (UInt32.ofNat (if negative then Binary32.signBit + bits else bits))
  else .error .outOfRange

/-- The digits of a decimal that are looked at first. -/
def leadingDigits : Nat := 19

/-- The most digits before the point that count towards the magnitude of a decimal whose leading
digits do not settle it. -/
def countedDigits : Nat := 800

/-- Whether the leading digits settle how `m.value * 10^decimal` is rounded: nothing but zeros
follows them, or the next larger number with as many digits has the same pattern. -/
def Mantissa.settled (m : Mantissa) (decimal : Int) : Bool :=
  let dropped := m.significant - leadingDigits
  let unit := Nat.pow 10 dropped
  let leading := m.value / unit
  m.value % unit = 0 ||
    scaledPattern leading 0 (decimal + dropped) = scaledPattern (leading + 1) 0 (decimal + dropped)

/-- The power of ten that scales `m.value`, for the exponent `e` written behind it.  It makes up
for the digits behind the point, and a magnitude that is not settled loses the digits before the
point that are not counted. -/
def Mantissa.decimalExponent (m : Mantissa) (e : Int) : Int :=
  let decimal := e - m.places
  if m.whole ≤ countedDigits ∨ m.settled decimal then decimal
  else decimal - (m.whole - countedDigits : Nat)

/-- Reads a decimal number behind its sign. -/
def readDecimal (negative : Bool) (cs : List Char) : Except Flaw UInt32 :=
  let (m, rest) := Mantissa.scan 10 {} cs
  let exponent? : Option Int := match rest with
    | [] => some 0
    | c :: rest => if c = 'e' ∨ c = 'E' then scanExponent rest else none
  match exponent? with
  | some e =>
    if m.nonempty && wellSeparated 10 .nothing cs then
      roundScaled negative m.value 0 (m.decimalExponent e)
    else .error .malformed
  | none => .error .malformed

/-- Reads a hexadecimal number behind its sign and its `0x`, which counts as a digit for the
underscore that may follow it. -/
def readHexadecimal (negative : Bool) (cs : List Char) : Except Flaw UInt32 :=
  let (m, rest) := Mantissa.scan 16 {} cs
  let exponent? : Option Int := match rest with
    | c :: rest => if c = 'p' ∨ c = 'P' then scanExponent rest else none
    | [] => none
  match exponent? with
  | some e =>
    if m.nonempty && wellSeparated 16 .digit cs then
      roundScaled negative m.value (e - 4 * m.places) 0
    else .error .malformed
  | none => .error .malformed

/-- The single-precision pattern of a number with a point. -/
def readFloating (cs : List Char) : Except Flaw UInt32 :=
  let (negative, rest) := match cs with
    | '+' :: rest => (false, rest)
    | '-' :: rest => (true, rest)
    | _ => (false, cs)
  match rest with
  | '0' :: x :: digits =>
    if (x = 'x' ∨ x = 'X') ∧ digits ≠ [] then readHexadecimal negative digits
    else readDecimal negative rest
  | _ => readDecimal negative rest

end Numeral

end RegisterScript
