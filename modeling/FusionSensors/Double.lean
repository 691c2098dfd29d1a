/-
# FusionSensors.Double -- binary64 values of number literals

A literal with a fraction or an exponent is first read as a binary64 value
and only then rounded to the field's format. This module holds what that
takes: products and quotients by powers of ten, and the step down to
`Single`.
-/
import FusionSensors.Single

namespace FusionSensors

set_option autoImplicit false

/-- A binary64 value: equality is equality of bits. -/
structure Double where
  bits : UInt64
  deriving DecidableEq, Repr, Inhabited

namespace Double

/-! ## Fields -/

def negative (x : Double) : Bool := 0x8000000000000000 ≤ x.bits.toNat

/-- The biased exponent, below 2048. -/
def exponentField (x : Double) : Nat := x.bits.toNat / 0x10000000000000 % 0x800

/-- The stored part of the mantissa, below `2 ^ 52`. -/
def fraction (x : Double) : Nat := x.bits.toNat % 0x10000000000000

def isFinite (x : Double) : Bool := x.exponentField != 2047

/-- Either of the two zeros. -/
def isZero (x : Double) : Bool := x.exponentField == 0 && x.fraction == 0

/-- The magnitude of a finite value. -/
def magnitude (x : Double) : Magnitude :=
  if x.exponentField = 0 then ⟨x.fraction, -1074, false⟩
  else ⟨0x10000000000000 + x.fraction, (x.exponentField : Int) - 1075, x.fraction == 0 && 1 < x.exponentField⟩

/-! ## Arithmetic -/

def ofFloat (x : Float) : Double := ⟨x.toBits⟩

def toFloat (x : Double) : Float := Float.ofBits x.bits

/-- The value nearest to a natural number. -/
def ofNat (n : Nat) : Double := ofFloat (Float.ofScientific n false 0)

/-- The value nearest to `10 ^ k`. -/
def powerOfTen (k : Nat) : Double := ofFloat (Float.ofScientific 1 false k)

instance : Mul Double := ⟨fun x y => ofFloat (x.toFloat * y.toFloat)⟩

instance : Div Double := ⟨fun x y => ofFloat (x.toFloat / y.toFloat)⟩

instance : Neg Double := ⟨fun x => ⟨x.bits ^^^ 0x8000000000000000⟩⟩

/-- The nearest binary32 value, ties to even; beyond its range an infinity. -/
def toSingle (x : Double) : Single :=
  if x.isFinite then Single.ofMagnitude x.negative x.magnitude
  else if x.fraction = 0 then ⟨if x.negative then 0xFF800000 else 0x7F800000⟩
  else ⟨0x7FC00000⟩

example : (ofNat 784 / powerOfTen 1).toSingle = ⟨0x429CCCCD⟩ := by decide +kernel

end Double

end FusionSensors
