/-
# FusionSensors.Single -- binary32 values, kept by their bits

Sensor payloads are copied and never interpreted, so a value is its 32 bits:
equality tells the two zeros apart and keeps every NaN payload. Arithmetic
goes through the core type `Float32`; rounding into the format is done on
naturals (`Single.ofMagnitude`), to nearest with ties to even.
-/
import FusionSensors.Magnitude

namespace FusionSensors

set_option autoImplicit false

/-- A binary32 value: equality is equality of bits. -/
structure Single where
  bits : UInt32
  deriving DecidableEq, Repr, Inhabited

namespace Single

/-- Positive zero. -/
def zero : Single := ⟨0⟩

/-- The bits of positive infinity, the first that no finite magnitude has. -/
def infinityBits : Nat := 0x7F800000

/-! ## Fields -/

/-- The sign bit; it is set in negative zero and may be set in a NaN. -/
def negative (x : Single) : Bool := 0x80000000 ≤ x.bits.toNat

/-- The biased exponent, below 256. -/
def exponentField (x : Single) : Nat := x.bits.toNat / 0x800000 % 0x100

/-- The stored part of the mantissa, below `2 ^ 23`. -/
def fraction (x : Single) : Nat := x.bits.toNat % 0x800000

/-- Neither infinite nor a NaN. -/
def isFinite (x : Single) : Bool := x.exponentField != 255

def isNaN (x : Single) : Bool := x.exponentField == 255 && x.fraction != 0

/-- The magnitude of a finite value. -/
def magnitude (x : Single) : Magnitude :=
  if x.exponentField = 0 then ⟨x.fraction, -149, false⟩
  else ⟨0x800000 + x.fraction, (x.exponentField : Int) - 150, x.fraction == 0 && 1 < x.exponentField⟩

/-! ## Rounding into the format -/

/-- The value nearest to a magnitude, ties to even; infinity beyond the range.

The last place of the result has weight `2 ^ unit`, where `unit` keeps 24
binary digits but never goes below the subnormal weight. Counting steps of
that weight and adding the exponent field is one addition, so a carry out of
the mantissa moves into the exponent by itself. -/
def ofMagnitude (negative : Bool) (x : Magnitude) : Single :=
  let unit : Int := max (x.exponent + x.mantissa.log2 - 23) (-149)
  let steps :=
    if unit ≤ x.exponent then x.mantissa * Nat.pow 2 (x.exponent - unit).toNat
    else roundShift x.mantissa (unit - x.exponent).toNat
  let body := if x.mantissa = 0 then 0 else min (steps + (unit + 149).toNat * 0x800000) infinityBits
  ⟨UInt32.ofNat (if negative then 0x80000000 + body else body)⟩

/-- The value nearest to an integer. -/
def ofInt (n : Int) : Single := ofMagnitude (n < 0) ⟨n.natAbs, 0, false⟩

/-! ## Arithmetic -/

def ofFloat32 (x : Float32) : Single := ⟨x.toBits⟩

def toFloat32 (x : Single) : Float32 := Float32.ofBits x.bits

instance : Add Single := ⟨fun x y => ofFloat32 (x.toFloat32 + y.toFloat32)⟩

example : ofInt 3 = ⟨0x40400000⟩ := by decide
example : ofInt (-16777217) = ⟨0xCB800000⟩ := by decide

end Single

end FusionSensors
