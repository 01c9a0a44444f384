/-!
# Names, pieces and numbers of a text

**Names.**  Every name of this library is ASCII, and a script may write it in any letter case.  Two
characters beyond ASCII take part as well: the long s U+017F folds to `s` and the Kelvin sign
U+212A folds to `k`.  No other character shares a simple folding class with an ASCII one, so
against an ASCII name `foldCase` decides exactly the Unicode relation.  Level names are compared
after lower-casing instead, which is a different map: there U+0130 becomes `i`, the Kelvin sign
becomes `k`, and the long s stays what it is.

**Pieces.**  Components of an operand stand between commas, names of a path between slashes, and a
flag may carry its value behind an equals sign.

**Numbers.**  Cells, words and offsets are shown in lower-case hexadecimal, sometimes padded with
zeros to the width of the field they stand for; counts are shown in decimal.  Both are the digits
of a natural number in a base, highest first.
-/

namespace RegisterScript.Text

/-! ## Comparing names without regard to case -/

/-- The representative of `c` under simple case folding, for classes that contain an ASCII
letter; all other characters represent themselves. -/
def foldCase (c : Char) : Char :=
  if c.toNat = 0x17F then 's' else if c.toNat = 0x212A then 'k' else c.toLower

/-- Whether `text` is the ASCII name `name` up to letter case. -/
def sameName (name text : String) : Bool :=
  name.toList.map foldCase == text.toList.map foldCase

/-- The lower-case form of `c`, for characters whose lower-case form is ASCII; all other
characters are left alone, since no level name contains one. -/
def lowerCase (c : Char) : Char :=
  if c.toNat = 0x130 then 'i' else if c.toNat = 0x212A then 'k' else c.toLower

/-! ## Splitting text -/

/-- The pieces of `cs` between separators; there is always at least one. -/
def split (separator : Char) : List Char → List (List Char)
  | [] => [[]]
  | c :: cs =>
    if c = separator then [] :: split separator cs
    else match split separator cs with
      | piece :: pieces => (c :: piece) :: pieces
      | [] => [[c]]

/-- What stands before the first separator and, if there is one, what stands behind it. -/
def cut (separator : Char) : List Char → List Char × Option (List Char)
  | [] => ([], none)
  | c :: cs =>
    if c = separator then ([], some cs)
    else ((c :: (cut separator cs).1), (cut separator cs).2)

/-! ## Numbers as text -/

/-- The lower-case hexadecimal digits of `n`, without leading zeros; zero is the digit `0`. -/
def hexDigits (n : Nat) : List Char := Nat.toDigits 16 n

/-- `n` in hexadecimal. -/
def hex (n : Nat) : String := String.ofList (hexDigits n)

/-- `n` in hexadecimal, padded with zeros on the left to at least `width` digits. -/
def hexPadded (width n : Nat) : String :=
  String.ofList ((hexDigits n).leftpad width '0')

/-- `n` in decimal. -/
def decimal (n : Nat) : String := String.ofList (Nat.toDigits 10 n)

/-- `n` in decimal, padded with blanks on the left to at least `width` characters. -/
def decimalPadded (width n : Nat) : String :=
  String.ofList ((Nat.toDigits 10 n).leftpad width ' ')

/-- `n` in decimal, with a minus sign in front when it is negative. -/
def signedDecimal : Int → String
  | .ofNat n => decimal n
  | .negSucc n => "-" ++ decimal (n + 1)

end RegisterScript.Text
