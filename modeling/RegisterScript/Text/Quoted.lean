import RegisterScript.Text.Basic
import RegisterScript.Text.Printable

/-!
# Quoted text

Error messages quote the text they are about.  Between the quotes a character stands for itself
if it is printable; the quote and the backslash get a backslash, seven control characters have a
letter of their own, and every other character is written by its code point with as many
hexadecimal digits as its size calls for.
-/

namespace RegisterScript.Text

/-- The letter behind the backslash for the control characters that have one. -/
def controlLetter? (c : Char) : Option Char :=
  match c.toNat with
  | 0x07 => some 'a'
  | 0x08 => some 'b'
  | 0x0C => some 'f'
  | 0x0A => some 'n'
  | 0x0D => some 'r'
  | 0x09 => some 't'
  | 0x0B => some 'v'
  | _ => none

/-- How `c` is written between two `quote` characters. -/
def escaped (quote c : Char) : String :=
  if c = quote ∨ c = '\\' then String.ofList ['\\', c]
  else if isPrintable c then String.singleton c
  else match controlLetter? c with
    | some letter => String.ofList ['\\', letter]
    | none =>
      -- The width of the escape follows the size of the code point: two, four or eight digits.
      if c.toNat < 0x80 then "\\x" ++ hexPadded 2 c.toNat
      else if c.toNat < 0x10000 then "\\u" ++ hexPadded 4 c.toNat
      else "\\U" ++ hexPadded 8 c.toNat

/-- `text` between double quotes. -/
def quoted (text : String) : String :=
  "\"" ++ String.join (text.toList.map (escaped '"')) ++ "\""

/-- A single character between single quotes. -/
def quotedChar (c : Char) : String := "'" ++ escaped '\'' c ++ "'"

end RegisterScript.Text
