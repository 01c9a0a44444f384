/-!
# Rounding a ratio to single precision

A positive rational number is rounded once, straight to the 24-bit significands of binary32, to
nearest with ties to even.  The result is the bit pattern without its sign.  Patterns are ordered
like the values they stand for, and the pattern one past the largest finite one is infinity, so
one formula covers subnormals, normals, the carry into the next power of two, and overflow.

* `roundedQuotient n d` is the quotient rounded to nearest, ties to even.
* `Binary32.ofRatio n d` is the bit pattern of the rounded ratio; from `Binary32.infinity` on it is
  no finite number.
-/

namespace RegisterScript

/-- `n / d` rounded to the nearest integer, a tie going to the even neighbour. -/
def roundedQuotient (n d : Nat) : Nat :=
  let q := n / d
  let r := n % d
  if 2 * r < d ∨ (2 * r = d ∧ q % 2 = 0) then q else q + 1

namespace Binary32

/-- The pattern of positive infinity, the first that is no finite number. -/
def infinity : Nat := 0x7F800000

/-- The sign bit. -/
def signBit : Nat := 0x80000000

/-- The whole exponent `k` with `2^k ≤ n / d < 2^(k + 1)`, for positive `n` and `d`. -/
def binaryExponent (n d : Nat) : Int :=
  -- The lengths of the two numbers leave two candidates; one comparison picks.
  let k : Int := (n.log2 : Int) - (d.log2 : Int)
  if d <<< k.toNat ≤ n <<< (-k).toNat then k else k - 1

/-- The pattern of the number nearest to `n / d`, for positive `n` and `d`. -/
def ofRatio (n d : Nat) : Nat :=
  -- The unit in the last place is a power of two, never below that of the subnormals.
  let unit : Int := max (-149) (binaryExponent n d - 23)
  let significand := roundedQuotient (n <<< (-unit).toNat) (d <<< unit.toNat)
  ((unit + 149).toNat <<< 23) + significand

end Binary32

end RegisterScript
