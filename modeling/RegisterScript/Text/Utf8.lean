/-!
# UTF-8

Scripts arrive as bytes.  `Utf8.decode` reads them the forgiving way: a well-formed sequence is
its character, and a byte that starts no well-formed sequence reads as one replacement character
U+FFFD, after which reading goes on with the very next byte.

`Utf8.encode` is the inverse direction, and the only form in which text leaves the library.
-/

namespace RegisterScript

/-- A byte stream. -/
abbrev Bytes := List UInt8

namespace Utf8

/-- The bytes of `text`. -/
def encode (text : String) : Bytes := text.toList.flatMap String.utf8EncodeChar

/-- The character that stands for a byte outside every well-formed sequence. -/
def replacement : Char := Char.ofNat 0xFFFD

/-- Whether `b` continues a sequence. -/
def isContinuation (b : UInt8) : Bool := 0x80 ≤ b && b ≤ 0xBF

/-- The six payload bits of a continuation byte. -/
def payload (b : UInt8) : Nat := b.toNat - 0x80

/-- The bounds on the second byte of a three-byte sequence: E0 excludes overlong forms and ED
the surrogates. -/
def secondOfThree (lead second : UInt8) : Bool :=
  (if lead = 0xE0 then 0xA0 else 0x80) ≤ second && second ≤ (if lead = 0xED then 0x9F else 0xBF)

/-- The bounds on the second byte of a four-byte sequence: F0 excludes overlong forms and F4
everything past U+10FFFF. -/
def secondOfFour (lead second : UInt8) : Bool :=
  (if lead = 0xF0 then 0x90 else 0x80) ≤ second && second ≤ (if lead = 0xF4 then 0x8F else 0xBF)

/-- The character that the sequence led by `b` spells, with the number of bytes of `rest` it
uses up; `none` if no well-formed sequence starts at `b`. -/
def character? (b : UInt8) (rest : Bytes) : Option (Char × Nat) :=
  if b < 0x80 then some (Char.ofNat b.toNat, 0)
  else if 0xC2 ≤ b && b ≤ 0xDF then
    match rest with
    | b₁ :: _ =>
      if isContinuation b₁ then some (Char.ofNat ((b.toNat - 0xC0) * 64 + payload b₁), 1) else none
    | [] => none
  else if 0xE0 ≤ b && b ≤ 0xEF then
    match rest with
    | b₁ :: b₂ :: _ =>
      if secondOfThree b b₁ && isContinuation b₂ then
        some (Char.ofNat (((b.toNat - 0xE0) * 64 + payload b₁) * 64 + payload b₂), 2)
      else none
    | _ => none
  else if 0xF0 ≤ b && b ≤ 0xF4 then
    match rest with
    | b₁ :: b₂ :: b₃ :: _ =>
      if secondOfFour b b₁ && isContinuation b₂ && isContinuation b₃ then
        some (Char.ofNat
          ((((b.toNat - 0xF0) * 64 + payload b₁) * 64 + payload b₂) * 64 + payload b₃), 3)
      else none
    | _ => none
  else none

/-- Reads on behind the characters `read` (newest first). -/
def decodeFrom (read : List Char) : Bytes → List Char
  | [] => read.reverse
  | b :: rest =>
    match character? b rest with
    | some (c, used) => decodeFrom (c :: read) (rest.drop used)
    | none => decodeFrom (replacement :: read) rest
termination_by bytes => bytes.length
decreasing_by
  all_goals simp only [List.length_drop, List.length_cons]; omega

/-- The characters of a byte stream, one replacement character for each stray byte. -/
def decode (bytes : Bytes) : List Char := decodeFrom [] bytes

end Utf8

end RegisterScript
