/-
# FusionSensors.Decimal.Layout -- how a decimal is written out

Which digits are written is settled by `Magnitude.shortest`; this module
settles where they stand. A layout gives the range of exponents of the
leading digit that are written in plain notation, always with a digit on both
sides of the point. Outside that range stands scientific notation, with a
sign before every exponent and no point after a single digit.
-/
import FusionSensors.Decimal.Shortest
import FusionSensors.Double

namespace FusionSensors

set_option autoImplicit false

namespace Decimal

/-- The exponents of the leading digit that are written in plain notation. -/
structure Layout where
  plainFrom : Int
  plainTo : Int

/-- Values of records: plain from `0.000001` up to thirteen digits before the
point. -/
def Layout.record : Layout := ⟨-6, 12⟩

/-- Literals quoted in messages: plain from `0.00001` up to sixteen digits
before the point. -/
def Layout.message : Layout := ⟨-5, 15⟩

/-- The digits of a natural number. -/
def natural (n : Nat) : List Char := Nat.toDigits 10 n

/-- The digits of an integer, with a sign if it is negative. -/
def integer (n : Int) : List Char :=
  if n < 0 then '-' :: natural n.natAbs else natural n.natAbs

/-- The exponent of the leading digit. -/
def leadingExponent (d : Decimal) : Int := d.exponent + (natural d.digits).length - 1

/-- Plain notation: the point stands after, between or before the digits. -/
def plain (d : Decimal) : List Char :=
  let digits := natural d.digits
  let lead := d.leadingExponent
  if 0 ≤ d.exponent then digits ++ List.replicate d.exponent.toNat '0' ++ ['.', '0']
  else if 0 ≤ lead then digits.take (lead.toNat + 1) ++ '.' :: digits.drop (lead.toNat + 1)
  else '0' :: '.' :: List.replicate (-lead - 1).toNat '0' ++ digits

/-- Scientific notation. -/
def scientific (d : Decimal) : List Char :=
  let mark := if d.leadingExponent < 0 then ['e', '-'] else ['e', '+']
  let exponent := mark ++ natural d.leadingExponent.natAbs
  match natural d.digits with
  | lead :: next :: rest => lead :: '.' :: next :: rest ++ exponent
  | digits => digits ++ exponent

/-- A signed decimal in the given layout. -/
def Layout.write (layout : Layout) (negative : Bool) (d : Decimal) : List Char :=
  let lead := d.leadingExponent
  let body := if layout.plainFrom ≤ lead ∧ lead ≤ layout.plainTo then d.plain else d.scientific
  if negative then '-' :: body else body

end Decimal

/-- The shortest text of a finite value, as records hold it. -/
def Single.digits (x : Single) : List Char :=
  Decimal.Layout.record.write x.negative x.magnitude.shortest

/-- The shortest text of a finite value, as messages quote it. -/
def Double.digits (x : Double) : List Char :=
  Decimal.Layout.message.write x.negative x.magnitude.shortest

example : String.ofList (Single.digits ⟨0x429CCCCD⟩) = "78.4" := by decide +kernel
example : String.ofList (Single.digits ⟨0x00000001⟩) = "1e-45" := by decide +kernel

end FusionSensors
