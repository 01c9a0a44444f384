/-!
# Bit layouts

A packed word is described by its slots from the lowest bit up: fields, which carry a value of
a fixed width, and gaps, which are written as zero and skipped on reading.  Writing and reading
are then one recursion each over the slots, in plain arithmetic: a slot is the remainder modulo its
capacity, two to the power of its width, and the slots above it are the quotient.

The layouts of the library are also written out by shifts and masks, in `Write.word`,
`Register.read`, `Tag.firstWord` and `Tag.ofWords`, with which they agree.

* `pack slots values` writes the values, each reduced to the width of its field.
* `unpack slots word` reads the values back.
* `mask slots` has a one in every bit of every field.
-/

namespace RegisterScript.Layout

/-- A run of neighbouring bits. -/
inductive Slot where
  /-- Bits that carry a value. -/
  | field (width : Nat)
  /-- Bits that are written as zero and skipped on reading. -/
  | gap (width : Nat)
  deriving DecidableEq, Repr

/-- The number of values that a slot of the given width can carry. -/
def capacity (width : Nat) : Nat := Nat.pow 2 width

/-- The word with the given field values, lowest field first.  A value too wide for its field
loses its high bits; fields beyond the last value are zero. -/
def pack : List Slot → List Nat → Nat
  | .field w :: slots, v :: values => v % capacity w + capacity w * pack slots values
  | .gap w :: slots, values => capacity w * pack slots values
  | .field _ :: _, [] => 0
  | [], _ => 0

/-- The field values of a word, lowest field first. -/
def unpack : List Slot → Nat → List Nat
  | .field w :: slots, n => n % capacity w :: unpack slots (n / capacity w)
  | .gap w :: slots, n => unpack slots (n / capacity w)
  | [], _ => []

/-- The word whose fields are all ones. -/
def mask : List Slot → Nat
  | .field w :: slots => capacity w - 1 + capacity w * mask slots
  | .gap w :: slots => capacity w * mask slots
  | [] => 0

/-- A flag as a field value. -/
def bit (flag : Bool) : Nat := if flag then 1 else 0

end RegisterScript.Layout
