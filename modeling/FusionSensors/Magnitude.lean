/-
# FusionSensors.Magnitude -- finite binary magnitudes and their rounding

A magnitude is `mantissa * 2 ^ exponent`. The two float formats of this
library decode into it, the shortest decimal text is chosen from it, and
`roundShift` is the one rounding step: drop binary places, to nearest, a tie
going to the even neighbour.
-/
namespace FusionSensors

set_option autoImplicit false

/-- The value `mantissa * 2 ^ exponent` of a finite float, without its sign.
`narrowBelow` says that the next float below is only half as far away as the
next one above, as it is at a power of two. -/
structure Magnitude where
  mantissa : Nat
  exponent : Int
  narrowBelow : Bool
  deriving DecidableEq, Repr

/-- The quotient `m / 2 ^ places`, rounded to nearest with ties to even. -/
def roundShift (m places : Nat) : Nat :=
  let last := Nat.pow 2 places
  let whole := m / last
  let rest := m % last
  if last < 2 * rest ∨ (2 * rest = last ∧ whole % 2 = 1) then whole + 1 else whole

theorem roundShift_zero (m : Nat) : roundShift m 0 = m := by
  simp [roundShift, Nat.mod_one]

end FusionSensors
