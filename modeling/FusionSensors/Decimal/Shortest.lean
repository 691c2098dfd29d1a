/-
# FusionSensors.Decimal.Shortest -- the shortest decimal that reads back

A float stands for the interval of reals that round to it: from halfway to
the neighbour below to halfway to the neighbour above, the two ends included
exactly when its mantissa is even. Among the points of the decimal grids
`10 ^ grid` the shortest text is the one on the coarsest grid that meets the
interval, and of several such points the one nearest to the float; a tie goes
to the even digit.

Everything is compared exactly, as naturals. The float is itself a point of
the grid `10 ^ min exponent 0`, so the search always ends with an answer.
-/
import FusionSensors.Magnitude

namespace FusionSensors

set_option autoImplicit false

/-- The value `digits * 10 ^ exponent`. -/
structure Decimal where
  digits : Nat
  exponent : Int
  deriving DecidableEq, Repr

namespace Magnitude

/-- The point of the grid `10 ^ grid` inside the interval of `x`, the one
nearest to `x` if there are two beside it; none if the interval falls between
two points. Lengths are counted in quarters of the last place of `x`. -/
def nearestOn (x : Magnitude) (grid : Int) : Option Nat :=
  let quarter := x.exponent - 2
  let gridScale := Nat.pow 10 grid.toNat * Nat.pow 2 (-quarter).toNat
  let quarterScale := Nat.pow 2 quarter.toNat * Nat.pow 10 (-grid).toNat
  let low := (4 * x.mantissa - if x.narrowBelow then 1 else 2) * quarterScale
  let value := 4 * x.mantissa * quarterScale
  let high := (4 * x.mantissa + 2) * quarterScale
  let endsIncluded := x.mantissa % 2 == 0
  let inside := fun point =>
    (low < point * gridScale || endsIncluded && low == point * gridScale) &&
      (point * gridScale < high || endsIncluded && point * gridScale == high)
  let below := value / gridScale
  let above := below + 1
  if inside below then
    if inside above then
      match compare (2 * value) ((below + above) * gridScale) with
      | .lt => some below
      | .gt => some above
      | .eq => some (if below % 2 = 0 then below else above)
    else some below
  else if inside above then some above
  else none

/-- A decimal exponent with `x < 10 ^ top`: three tenths of the binary one,
rounded up. -/
def top (x : Magnitude) : Int := (x.exponent + x.mantissa.log2 + 1) * 3 / 10 + 2

/-- The grids worth trying, coarsest first, down to one that holds `x`. -/
def grids (x : Magnitude) : List Int :=
  (List.range (x.top - min x.exponent 0 + 1).toNat).map fun (step : Nat) => x.top - step

/-- The shortest decimal that rounds to `x`. -/
def shortest (x : Magnitude) : Decimal :=
  if x.mantissa = 0 then ⟨0, 0⟩
  else
    (x.grids.findSome? fun grid => (x.nearestOn grid).map (⟨·, grid⟩)).getD
      ⟨x.mantissa * Nat.pow 2 x.exponent.toNat * Nat.pow 5 (-x.exponent).toNat, min x.exponent 0⟩

end Magnitude

end FusionSensors
