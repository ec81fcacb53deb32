import PacketDiversion.Decimal.Binary64

/-!
# The text of a double

A double is written with the fewest digits that read back to it, and with those nearest to it if
there is a choice. It is written without an exponent and always with a point.
-/

namespace PacketDiversion.Decimal

/-- Digits times a power of ten. -/
structure Digits where
  value : Nat
  exponent : Int
  deriving DecidableEq, Repr

/-- A positive double in units of a power of ten in which it is whole. -/
structure Whole where
  value : Nat
  /-- The distance to the double above. -/
  gap : Nat
  /-- Whether the double below is only half as far away. -/
  narrow : Bool
  /-- Whether numbers halfway to a neighbour still read back to this double. -/
  closed : Bool
  exponent : Int

namespace Whole

/-- The double `m * 2 ^ e` in units of `10 ^ min e 0`. -/
def ofBinary (m : Nat) (e : Int) : Whole where
  value := m * (Nat.pow 2 e.toNat * Nat.pow 5 (-e).toNat)
  gap := Nat.pow 2 e.toNat * Nat.pow 5 (-e).toNat
  narrow := m == Binary64.significandBound / 2 && e != Binary64.leastExponent
  closed := m % 2 == 0
  exponent := min e 0

/-- Whether a number of the same unit reads back to the double: it must not be farther away than
half the distance to the neighbour on its side. -/
def readsBack (w : Whole) (n : Nat) : Bool :=
  let low := 4 * w.value - (if w.narrow then w.gap else 2 * w.gap)
  let high := 4 * w.value + 2 * w.gap
  if w.closed then low ≤ 4 * n && 4 * n ≤ high else low < 4 * n && 4 * n < high

/-- What reads back on the grid of multiples of `10 ^ k`: the nearer neighbour of the double, or the
other one if only that reads back. Of two neighbours equally near it is the upper one. -/
def onGrid (w : Whole) (k : Nat) : Option Digits :=
  let step := Nat.pow 10 k
  let below := w.value / step
  let above := below + 1
  let fits (n : Nat) : Bool := w.readsBack (n * step)
  let upperFirst : Bool := 2 * w.value ≥ (below + above) * step
  let candidates := if upperFirst then [above, below] else [below, above]
  (candidates.find? fits).map fun n => ⟨n, w.exponent + k⟩

/-- The fewest digits that read back: the coarsest grid that holds some. -/
def shortest (w : Whole) : Digits :=
  let places := (Nat.toDigits 10 w.value).length
  ((List.range (places + 1)).reverse.findSome? w.onGrid).getD ⟨w.value, w.exponent⟩

end Whole

/-- Digits without an exponent, and with a point: at least one digit on each side of it. -/
def Digits.text (d : Digits) : String :=
  let digits := Nat.toDigits 10 d.value
  let places := (-d.exponent).toNat
  let padded := List.replicate (places + 1 - digits.length) '0' ++ digits
    ++ List.replicate d.exponent.toNat '0'
  let whole := padded.take (padded.length - places)
  let fraction := padded.drop (padded.length - places)
  String.ofList (whole ++ '.' :: (if fraction.isEmpty then ['0'] else fraction))

/-- A double in messages. -/
def Binary64.text : Binary64 → String
  | nan => "NaN"
  | infinity negative => if negative then "-inf" else "inf"
  | finite negative m e =>
    let magnitude := if m = 0 then "0.0" else (Whole.ofBinary m e).shortest.text
    if negative then "-" ++ magnitude else magnitude

end PacketDiversion.Decimal
