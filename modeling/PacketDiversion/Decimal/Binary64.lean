/-!
# Double-precision numbers

Numbers with a fraction are doubles: a significand below `2 ^ 53` times a power of two. A double
that is read from decimal digits is the nearest one to them; of two nearest ones it is the one with
the even significand. Everything is exact arithmetic on naturals.
-/

namespace PacketDiversion.Decimal

inductive Binary64
  /-- The number `± significand * 2 ^ exponent`. -/
  | finite (negative : Bool) (significand : Nat) (exponent : Int)
  | infinity (negative : Bool)
  | nan
  deriving DecidableEq, Repr

namespace Binary64

/-- Exponent of the doubles next to zero. -/
def leastExponent : Int := -1074

/-- Exponent of the greatest doubles. -/
def greatestExponent : Int := 971

/-- Bound of the significand: `2 ^ 53`. -/
def significandBound : Nat := 9007199254740992

/-! ### Rounding -/

/-- The natural nearest to `n / d`; a half goes to the even neighbour. -/
def roundDiv (n d : Nat) : Nat :=
  let down := n / d
  match compare (2 * (n % d)) d with
  | .lt => down
  | .gt => down + 1
  | .eq => down + down % 2

/-- The quotient of `n / d` by `2 ^ e`, as a numerator and a denominator. -/
def scale (n d : Nat) (e : Int) : Nat × Nat := (n * Nat.pow 2 (-e).toNat, d * Nat.pow 2 e.toNat)

/-- The exponent at which `n / d`, with `n` and `d` positive, fills the significand, but none below
the least one. -/
def exponentFor (n d : Nat) : Int :=
  let guess : Int := (n.log2 : Int) - d.log2 - 53
  let (num, den) := scale n d guess
  max leastExponent (if num / den < significandBound then guess else guess + 1)

/-- The double nearest to `± n / d`. -/
def ofRatio (negative : Bool) (n d : Nat) : Binary64 :=
  let e := exponentFor n d
  let (num, den) := scale n d e
  let m := roundDiv num den
  let (m, e) := if m = significandBound then (m / 2, e + 1) else (m, e)
  if e > greatestExponent then infinity negative else finite negative m e

def zero (negative : Bool) : Binary64 := finite negative 0 leastExponent

/-- The double nearest to `± digits * 10 ^ exponent`. Numbers that are far out of range need no
arithmetic. -/
def ofDecimal (negative : Bool) (digits : Nat) (exponent : Int) : Binary64 :=
  let magnitude : Int := (Nat.toDigits 10 digits).length + exponent
  if digits = 0 ∨ magnitude < -330 then zero negative
  else if magnitude > 310 then infinity negative
  else ofRatio negative (digits * Nat.pow 10 exponent.toNat) (Nat.pow 10 (-exponent).toNat)

end Binary64

end PacketDiversion.Decimal
