import DocumentSearch.Binary64

/-!
The shortest decimal of a finite number: the fewest digits that read back as the number, and of
those the nearest to it. A decimal reads back when it lies in the interval of the reals that round
to the number, whose ends belong to it when the significand is even. Grids of powers of ten are
tried from coarse to fine; on each only the two neighbours of the number can lie in the interval.
-/

namespace DocumentSearch

/-- The positive decimal `digits * 10 ^ power`. -/
structure Decimal where
  digits : Nat
  power : Int
deriving DecidableEq

namespace Binary64

/-- The rounding interval in quarters of a unit in the last place: the lower end, the number
itself and the upper end. Below a power of two the spacing is half as wide. -/
def roundingInterval (x : Binary64) : Nat × Nat × Nat :=
  let centre := 4 * x.significand
  let below := if x.fractionBits = 0 && 1 < x.exponentBits then 1 else 2
  (centre - below, centre, centre + 2)

def inInterval (closed : Bool) (low high point : Nat) : Bool :=
  if closed then low ≤ point && point ≤ high else low < point && point < high

/-- The neighbour of `x` on the grid of multiples of `10 ^ power` that reads back as `x`. -/
def neighbourOnGrid (x : Binary64) (power : Int) : Option Nat :=
  let (low, centre, high) := x.roundingInterval
  let (binaryUp, binaryDown) := powerFactors 2 (x.exponent - 2)
  let (decimalUp, decimalDown) := powerFactors 10 power
  let scale := binaryUp * decimalDown
  let step := decimalUp * binaryDown
  let value := centre * scale
  let floor := value / step
  let closed := x.significand % 2 == 0
  let reads (n : Nat) : Bool := inInterval closed (low * scale) (high * scale) (n * step)
  let aboveMiddle := compare (2 * (value % step)) step
  match reads floor, reads (floor + 1) with
  | true, false => some floor
  | false, true => some (floor + 1)
  | false, false => none
  | true, true =>
      match aboveMiddle with
      | .lt => some floor
      | .gt => some (floor + 1)
      | .eq => some (floor + floor % 2)

/-- Tries the grids `10 ^ power`, `10 ^ (power - 1)` and so on. -/
def shortestFrom (x : Binary64) (power : Int) : Nat → Decimal
  | 0 => ⟨0, 0⟩
  | tries + 1 =>
      match x.neighbourOnGrid power with
      | some digits => ⟨digits, power⟩
      | none => shortestFrom x (power - 1) tries

/-- A power of ten that is at least the magnitude of `x`, and little more than it. -/
def decimalCeiling (x : Binary64) : Int :=
  ((x.significand.log2 : Int) + 1 + x.exponent) * 30103 / 100000 + 1

/-- The shortest decimal of the magnitude of a finite number other than zero. Seventeen digits
always read back, so the grids tried reach at least that fine. -/
def shortest (x : Binary64) : Decimal := x.shortestFrom x.decimalCeiling 24

end Binary64

end DocumentSearch
