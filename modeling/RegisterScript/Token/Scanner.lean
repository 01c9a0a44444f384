import RegisterScript.Text.CharacterClass
import RegisterScript.Token

/-!
# From characters to tokens

Scanning alternates between two steps.  `Cursor.skipTrivia` passes over white space and comments;
`bite` then decides, from the characters ahead alone, how many of them belong together and what
they are.  A problem uses up characters just as a token does, so scanning can be resumed behind it.

Most tokens end only where something else begins, so recognising them means looking one character
past their end.  If the input breaks off there because its device failed, the token is lost and the
device's error is what scanning finds (`Bite.looksAhead`).

* `bite`, with `nameLength` and `biteNumber` for the two kinds of token of varying length.
* `next`, one step of scanning.
* `Source.lexemes`, all tokens of a script up to and including the end of input, or up to the given
  number of problems.
-/

namespace RegisterScript

/-- What can be wrong with the characters of a script. -/
inductive LexicalProblem where
  | unexpected (c : Char)
  | unterminatedComment
  | signWithoutNumber
  | hexWithoutDigits
  | malformedNumber
  deriving DecidableEq, Repr

/-- The wording of a problem. -/
def LexicalProblem.message : LexicalProblem → String
  | unexpected c => "unexpected character " ++ Text.quotedChar c
  | unterminatedComment => "unterminated comment"
  | signWithoutNumber => "expected a number after '-'"
  | hexWithoutDigits => "hexadecimal literal has no digits"
  | malformedNumber => "malformed number"

/-- Why scanning found no token. -/
inductive ScanError where
  /-- The characters at a place are no token. -/
  | lexical (location : Location) (problem : LexicalProblem)
  /-- The device failed. -/
  | device (cause : DeviceError)
  deriving DecidableEq, Repr

/-- The wording of an error; it names its place itself. -/
def ScanError.message : ScanError → String
  | lexical location problem => location.render ++ ": " ++ problem.message
  | device cause => cause.message

/-! ## What belongs together -/

/-- The characters ahead that belong together. -/
structure Bite where
  /-- How many there are, not counting the first. -/
  extra : Nat
  /-- What they are. -/
  outcome : Except LexicalProblem TokenKind
  /-- Whether that took a look past the last of them. -/
  looksAhead : Bool

/-- Whether a name may start with `c`. -/
def startsName (c : Char) : Bool := Text.isLetter c || c = '_'

/-- Whether a name may go on with `c`. -/
def continuesName (c : Char) : Bool := Text.isLetter c || Text.isDecimalDigit c || c = '_'

/-- Whether a number may start with `c`. -/
def startsNumber (c : Char) : Bool := Text.isDecimalDigit c || c = '-' || c = '.'

/-- Whether `c` is one of the four marks. -/
def isPunctuation (c : Char) : Bool := c = '{' || c = '}' || c = ';' || c = ','

/-- Whether `c` is a hexadecimal digit. -/
def isHexDigit (c : Char) : Bool :=
  ('0' ≤ c && c ≤ '9') || ('a' ≤ c && c ≤ 'f') || ('A' ≤ c && c ≤ 'F')

/-- Whether a number may not be followed by `c`: it would run into a name or another number. -/
def runsOn (c : Char) : Bool := Text.isLetter c || c = '_' || c = '.'

/-- How far a decimal number goes on: digits, one point overall, and behind a point a final `f`. -/
def decimalLength : (pointed : Bool) → List Char → Nat
  | _, [] => 0
  | pointed, c :: cs =>
    if c = '.' && !pointed then decimalLength true cs + 1
    else if (c = 'f' || c = 'F') && pointed then 1
    else if Text.isDecimalDigit c then decimalLength pointed cs + 1
    else 0

/-- A number of `extra + 1` characters, unless the characters `rest` behind it forbid it. -/
def boundedNumber (extra : Nat) (rest : List Char) : Bite :=
  if rest.head?.any runsOn then ⟨extra, .error .malformedNumber, true⟩
  else ⟨extra, .ok .number, true⟩

/-- A number behind its sign; `before` characters are already known to belong to it, and `cs` is not
empty. -/
def biteUnsigned (before : Nat) (cs : List Char) : Bite :=
  match cs with
  | '0' :: x :: rest =>
    if x = 'x' || x = 'X' then
      let digits := (rest.takeWhile isHexDigit).length
      if digits = 0 then ⟨before + 1, .error .hexWithoutDigits, true⟩
      else boundedNumber (before + 1 + digits) (rest.drop digits)
    else
      let more := decimalLength false (x :: rest)
      boundedNumber (before + more) ((x :: rest).drop more)
  | c :: rest =>
    let more := decimalLength (c = '.') rest
    boundedNumber (before + more) (rest.drop more)
  | [] => ⟨before, .ok .number, true⟩

/-- A number; a sign has to be followed by a digit or a point. -/
def biteNumber (c : Char) (cs : List Char) : Bite :=
  if c = '-' then
    if cs.head?.any fun d => Text.isDecimalDigit d || d = '.' then biteUnsigned 1 cs
    else ⟨0, .error .signWithoutNumber, true⟩
  else biteUnsigned 0 (c :: cs)

/-- The one name that is a keyword. -/
def keyword : List Char := ['m', 'a', 'c', 'r', 'o']

/-- What starts at `c`, `cs` being the characters behind it.  The slash of a comment has been dealt
with before; any other slash takes the character behind it along. -/
def bite (c : Char) (cs : List Char) : Bite :=
  if startsName c then
    let more := cs.takeWhile continuesName
    ⟨more.length, .ok (if c :: more = keyword then .keyword else .identifier), true⟩
  else if startsNumber c then biteNumber c cs
  else if c = '/' then ⟨min 1 cs.length, .error (.unexpected c), cs.isEmpty⟩
  else if isPunctuation c then ⟨0, .ok .punctuation, false⟩
  else ⟨0, .error (.unexpected c), false⟩

/-! ## Moving through the text -/

/-- A place in a text with the characters from there on. -/
structure Cursor where
  position : Position
  rest : List Char
  deriving DecidableEq, Repr

namespace Cursor

/-- The start of a text. -/
def start (text : List Char) : Cursor := ⟨{}, text⟩

/-- Moves over `n` characters, or to the end. -/
def skip (c : Cursor) (n : Nat) : Cursor :=
  ⟨c.position.advanceBy (c.rest.take n), c.rest.drop n⟩

/-- Moves over the characters ahead that satisfy `p`. -/
def skipWhile (c : Cursor) (p : Char → Bool) : Cursor :=
  ⟨c.position.advanceBy (c.rest.takeWhile p), c.rest.dropWhile p⟩

theorem length_skip_le (c : Cursor) (n : Nat) : (c.skip n).rest.length ≤ c.rest.length := by
  simp [skip]

theorem length_skip_lt (c : Cursor) (n : Nat) (h : 0 < n) (h' : 0 < c.rest.length) :
    (c.skip n).rest.length < c.rest.length := by
  simp only [skip, List.length_drop]; omega

theorem length_skipWhile_le (c : Cursor) (p : Char → Bool) :
    (c.skipWhile p).rest.length ≤ c.rest.length := by
  simpa [skipWhile] using (List.dropWhile_sublist p).length_le

end Cursor

/-- How many characters a comment has up to the end of its closing mark, `cs` being those behind its
opening mark; `count` of them are already passed, and `star` tells whether the last was a star. -/
def commentLength? (star : Bool) (count : Nat) : List Char → Option Nat
  | [] => none
  | c :: cs =>
    if star && c = '/' then some (count + 1) else commentLength? (c = '*') (count + 1) cs

/-- The comment ahead, as far as it goes; `none` in place of the length if it is never closed. -/
inductive Comment where
  | absent
  | closed (extra : Nat)
  | unclosed

/-- Whether a comment is ahead.  A line comment includes the newline that ends it. -/
def comment : List Char → Comment
  | '/' :: '/' :: cs => .closed ((cs.takeWhile (· ≠ '\n')).length + 2)
  | '/' :: '*' :: cs =>
    match commentLength? false 0 cs with
    | some n => .closed (n + 1)
    | none => .unclosed
  | _ => .absent

/-- A comment has a first character. -/
theorem length_pos_of_comment {cs : List Char} {extra : Nat} (h : comment cs = .closed extra) :
    0 < cs.length := by
  cases cs with
  | nil => cases h
  | cons => exact Nat.succ_pos _

/-- Moves over white space and comments.  If the last comment is not closed, the result is the place
where it starts. -/
def Cursor.skipTrivia (c : Cursor) : Except Position Cursor :=
  let ahead := c.skipWhile Text.isBlank
  match _h : comment ahead.rest with
  | .absent => .ok ahead
  | .unclosed => .error ahead.position
  | .closed extra => (ahead.skip (extra + 1)).skipTrivia
termination_by c.rest.length
decreasing_by
  exact Nat.lt_of_lt_of_le
    (Cursor.length_skip_lt _ _ (Nat.succ_pos _) (length_pos_of_comment _h))
    (Cursor.length_skipWhile_le c Text.isBlank)

/-! ## Scanning -/

/-- One step of scanning. -/
inductive Scan where
  /-- The text is used up. -/
  | finished (position : Position)
  /-- A token, and where scanning goes on. -/
  | token (kind : TokenKind) (text : List Char) (position : Position) (rest : Cursor)
  /-- No token, and where scanning can be resumed. -/
  | failed (error : ScanError) (rest : Cursor)

/-- The end of the text, as the device reports it. -/
def atEnd (ending : Ending) (position : Position) : Scan :=
  match ending with
  | .complete => .finished position
  | .broken cause => .failed (.device cause) ⟨position, []⟩

/-- Scans one token of the file `file` from a place that is not white space or a comment. -/
def scanBite (file : String) (ending : Ending) (cursor : Cursor) (c : Char) (cs : List Char) :
    Scan :=
  let b := bite c cs
  let rest := cursor.skip (b.extra + 1)
  match ending, b.looksAhead && rest.rest.isEmpty with
  | .broken cause, true => .failed (.device cause) rest
  | _, _ =>
    match b.outcome with
    | .ok kind => .token kind (c :: cs.take b.extra) cursor.position rest
    | .error problem => .failed (.lexical ⟨file, cursor.position⟩ problem) rest

/-- One step of scanning the file `file`. -/
def next (file : String) (ending : Ending) (cursor : Cursor) : Scan :=
  match cursor.skipTrivia with
  | .error start =>
    match ending with
    | .complete =>
      .failed (.lexical ⟨file, start⟩ .unterminatedComment) (cursor.skip cursor.rest.length)
    | .broken cause => .failed (.device cause) (cursor.skip cursor.rest.length)
  | .ok ahead =>
    match ahead.rest with
    | [] => atEnd ending ahead.position
    | c :: cs => scanBite file ending ahead c cs

theorem Cursor.length_of_skipTrivia {c ahead : Cursor} (h : c.skipTrivia = .ok ahead) :
    ahead.rest.length ≤ c.rest.length := by
  fun_induction Cursor.skipTrivia c with
  | case1 c =>
    rw [← Except.ok.inj h]; exact Cursor.length_skipWhile_le c _
  | case2 => simp at h
  | case3 c _ _ _ ih =>
    exact Nat.le_trans (ih h) (Nat.le_trans (Cursor.length_skip_le _ _)
      (Cursor.length_skipWhile_le c _))

/-- A token uses up at least one character. -/
theorem length_of_next_token {file : String} {ending : Ending} {cursor rest : Cursor}
    {kind : TokenKind} {text : List Char} {position : Position}
    (h : next file ending cursor = .token kind text position rest) :
    rest.rest.length < cursor.rest.length := by
  unfold next at h
  split at h
  · split at h <;> cases h
  · rename_i ahead hskip
    have hle := Cursor.length_of_skipTrivia hskip
    split at h
    · unfold atEnd at h; split at h <;> cases h
    · rename_i c cs hrest
      have hpos : 0 < ahead.rest.length := by rw [hrest]; simp
      unfold scanBite at h
      simp only at h
      split at h
      · cases h
      · split at h
        · cases h
          exact Nat.lt_of_lt_of_le (Cursor.length_skip_lt _ _ (Nat.succ_pos _) hpos) hle
        · cases h

/-- Scans on behind the lexemes `read` (newest first), until the end of input or until `problems`
more problems have been found. -/
def lexemesFrom (file : String) (ending : Ending) (problems : Nat) (cursor : Cursor)
    (read : List (Except ScanError Token)) : List (Except ScanError Token) :=
  match problems with
  | 0 => read.reverse
  | problems + 1 =>
    match h : next file ending cursor with
    | .finished position => (.ok ⟨.endOfInput, "", ⟨file, position⟩⟩ :: read).reverse
    | .token kind text position rest =>
      lexemesFrom file ending (problems + 1) rest
        (.ok ⟨kind, String.ofList text, ⟨file, position⟩⟩ :: read)
    | .failed error rest => lexemesFrom file ending problems rest (.error error :: read)
termination_by (problems, cursor.rest.length)
decreasing_by
  · exact Prod.Lex.right _ (length_of_next_token h)
  · exact Prod.Lex.left _ _ (Nat.lt_succ_self _)

/-- The tokens of a script with the end of input as the last, or with the problem that came first;
given a larger number, scanning resumes behind problems until that many have been found. -/
def Source.lexemes (s : Source) (problems : Nat) : List (Except ScanError Token) :=
  lexemesFrom s.name s.ending problems (Cursor.start s.text) []

end RegisterScript
