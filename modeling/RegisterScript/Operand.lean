import RegisterScript.Numeral.Floating
import RegisterScript.Text.CharacterClass
import RegisterScript.Text.Basic

/-!
# Operands

An operand is what a statement pushes into a register: one to four cells of 32 bits.  A cell is an
unsigned number or the bit pattern of a single-precision one; which of the two is for the register
to know, the cell does not say.

* `Vec2`, `Vec3`, `Vec4` and `Operand`, with `Operand.cells` as the common view.
* `Vec2.add`, lane by lane, wrapping.
* `readCell` gives one component its value, `Operand.read` types a text by its number of commas.
* `Operand.render` writes cells in hexadecimal, the form that reads back to the same operand.
-/

namespace RegisterScript

/-- The raw content of one lane of an operand. -/
abbrev Cell := UInt32

/-- Two cells. -/
structure Vec2 where
  x : Cell
  y : Cell
  deriving DecidableEq, Repr, Inhabited

/-- Three cells. -/
structure Vec3 where
  x : Cell
  y : Cell
  z : Cell
  deriving DecidableEq, Repr, Inhabited

/-- Four cells. -/
structure Vec4 where
  x : Cell
  y : Cell
  z : Cell
  w : Cell
  deriving DecidableEq, Repr, Inhabited

/-- Adds lane by lane; lanes wrap. -/
def Vec2.add (a b : Vec2) : Vec2 := ⟨a.x + b.x, a.y + b.y⟩

/-- What one push delivers, typed by its number of cells. -/
inductive Operand where
  | scalar (cell : Cell)
  | vec2 (v : Vec2)
  | vec3 (v : Vec3)
  | vec4 (v : Vec4)
  deriving DecidableEq, Repr

/-! ## Cells and their text -/

/-- The cells in order. -/
def Operand.cells : Operand → List Cell
  | .scalar c => [c]
  | .vec2 v => [v.x, v.y]
  | .vec3 v => [v.x, v.y, v.z]
  | .vec4 v => [v.x, v.y, v.z, v.w]

/-- The number of cells. -/
def Operand.arity (v : Operand) : Nat := v.cells.length

/-- A cell in hexadecimal, with its mark. -/
def renderCell (c : Cell) : String := "0x" ++ Text.hex c.toNat

/-- Cells in hexadecimal, separated by commas. -/
def renderCells (cells : List Cell) : String := ",".intercalate (cells.map renderCell)

/-- The text of an operand. -/
def Operand.render (v : Operand) : String := renderCells v.cells

/-- The name of an operand's shape in a refusal. -/
def Operand.shape : Operand → String
  | .scalar _ => "an integer"
  | .vec2 _ => "a Vec2"
  | .vec3 _ => "a Vec3"
  | .vec4 _ => "a Vec4"

/-! ## Reading -/

/-- The forms a component can take; each has its own reader. -/
inductive ComponentForm where
  | hex
  | float
  | integer
  deriving DecidableEq, Repr

/-- Why a text is no operand. -/
inductive OperandError where
  /-- One component is refused by the reader for its form. -/
  | component (form : ComponentForm) (text : String) (cause : Numeral.Error)
  /-- A vector of known size has another number of components. -/
  | wrongCount (expected got : Nat) (text : String)
  /-- There are more than four components. -/
  | tooMany (count : Nat) (text : String)
  deriving DecidableEq, Repr

/-- The word for a form in a refusal. -/
def ComponentForm.word : ComponentForm → String
  | .hex => "hex"
  | .float => "float"
  | .integer => "integer"

/-- The wording of a refusal. -/
def OperandError.message : OperandError → String
  | .component form text cause =>
    "invalid " ++ form.word ++ " component " ++ Text.quoted text ++ ": " ++ cause.message
  | .wrongCount expected got text =>
    "expected " ++ Text.decimal expected ++ " components, got " ++ Text.decimal got ++ " in "
      ++ Text.quoted text
  | .tooMany count text =>
    "too many components (" ++ Text.decimal count ++ ") in " ++ Text.quoted text

/-- Attaches to a flaw the component it was found in and the part of it that was read. -/
def componentResult (form : ComponentForm) (kind : Numeral.Kind) (component part : List Char) :
    Except Numeral.Flaw Cell → Except OperandError Cell
  | .ok cell => .ok cell
  | .error flaw =>
    .error (.component form (String.ofList component) ⟨kind, String.ofList part, flaw⟩)

/-- `cs` without the run of `f` and `F` at its end. -/
def dropFloatSuffix (cs : List Char) : List Char :=
  (cs.reverse.dropWhile fun c => c = 'f' || c = 'F').reverse

/-- The value of one component.  The form is chosen by the first rule that fits: `0x` and more is
hexadecimal, a point makes it a float, a minus sign makes it a wrapped negative, and all else is
decimal. -/
def readCell (text : List Char) : Except OperandError Cell :=
  let cs := Text.trim text
  let plain : Except OperandError Cell :=
    if '.' ∈ cs then
      let part := dropFloatSuffix cs
      componentResult .float .floating cs part (Numeral.readFloating part)
    else match cs with
      | '-' :: digits => componentResult .integer .signed cs cs (Numeral.readNegative digits)
      | _ => componentResult .integer .unsigned cs cs
          ((Numeral.readUnsigned 10 cs).map UInt32.ofNat)
  match cs with
  | '0' :: x :: d :: digits =>
    if x = 'x' ∨ x = 'X' then
      componentResult .hex .unsigned cs (d :: digits)
        ((Numeral.readUnsigned 16 (d :: digits)).map UInt32.ofNat)
    else plain
  | _ => plain

/-- Reads exactly `n` components. -/
def readCells (n : Nat) (text : List Char) : Except OperandError (List Cell) :=
  let pieces := Text.split ',' text
  if pieces.length = n then pieces.mapM readCell
  else .error (.wrongCount n pieces.length (String.ofList text))

/-- The operand with the given cells, if their number is one to four. -/
def Operand.ofCells? : List Cell → Option Operand
  | [x] => some (.scalar x)
  | [x, y] => some (.vec2 ⟨x, y⟩)
  | [x, y, z] => some (.vec3 ⟨x, y, z⟩)
  | [x, y, z, w] => some (.vec4 ⟨x, y, z, w⟩)
  | _ => none

/-- Reads a vector with `n` components as an operand. -/
def Operand.readVector (n : Nat) (text : List Char) : Except OperandError Operand := do
  let cells ← readCells n text
  match Operand.ofCells? cells with
  | some v => .ok v
  | none => .error (.tooMany cells.length (String.ofList text))

/-- Reads one to four components, separated by commas, into the operand of that arity. -/
def Operand.read (text : List Char) : Except OperandError Operand :=
  let count := text.count ',' + 1
  if count = 1 then .scalar <$> readCell text
  else if count ≤ 4 then Operand.readVector count text
  else .error (.tooMany count (String.ofList text))

end RegisterScript
