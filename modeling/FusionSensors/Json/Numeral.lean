/-
# FusionSensors.Json.Numeral -- number literals

A literal without fraction and exponent that fits 64 bits is an integer;
every other literal is a binary64 value. The digits of a literal are gathered
into a 64-bit significand as long as they fit; what comes after them counts
only by its place. The significand is then multiplied or divided by a power
of ten, each step rounded to binary64.
-/
import FusionSensors.Json.Reader

namespace FusionSensors.Json

set_option autoImplicit false

/-- The value of a number literal. -/
inductive Numeral where
  | integer (value : Int)
  | float (value : Double)
  deriving DecidableEq, Repr

namespace Numeral

/-- The value as a message names it. -/
def found : Numeral → Found
  | .integer value => .integer value
  | .float value => .float value

def digitValue (c : Char) : Nat := c.toNat - '0'.toNat

/-- The natural number that digits write. -/
def valueOf (digits : List Char) : Nat := digits.foldl (fun n c => 10 * n + digitValue c) 0

/-! ## From the parts of a literal to its value -/

/-- Appends digits to a significand while it fits 64 bits, and answers it with
the digits that were left out. -/
def gather : Nat → List Char → Nat × List Char
  | significand, [] => (significand, [])
  | significand, c :: digits =>
    let longer := 10 * significand + digitValue c
    if longer < UInt64.size then gather longer digits else (significand, c :: digits)

/-- The product `x * 10 ^ exponent`, in one step for an exponent at most 308 in
absolute value. A smaller exponent is reached by dividing by `10 ^ 308` first,
and a larger one is out of range, unless `x` is zero. -/
def scale : Nat → Double → Int → Except Defect Double
  | rounds, x, exponent =>
    if exponent.natAbs ≤ 308 then
      if 0 ≤ exponent then
        let scaled := x * Double.powerOfTen exponent.toNat
        if scaled.isFinite then .ok scaled else .error .numberTooLarge
      else .ok (x / Double.powerOfTen exponent.natAbs)
    else if x.isZero then .ok x
    else if 0 ≤ exponent then .error .numberTooLarge
    else
      match rounds with
      | 0 => .ok x
      | more + 1 => scale more (x / Double.powerOfTen 308) (exponent + 308)

/-- The value of a literal from its sign, significand and exponent. -/
def ofParts (negative : Bool) (significand : Nat) (exponent : Int) : Except Defect Numeral :=
  (scale (exponent.natAbs / 308) (Double.ofNat significand) exponent).map fun x =>
    .float (if negative then -x else x)

/-! ## Reading -/

/-- The value of the parts, as a reader that takes nothing. -/
def fromParts (negative : Bool) (significand : Nat) (exponent : Int) : Reader Numeral := fun text =>
  (ofParts negative significand exponent).map (·, text)

/-- The greatest exponent that is computed with; a literal may write a larger
one only where its value is zero. -/
def maxExponent : Nat := 2147483647

/-- From the exponent mark on. `exponent` is what the digits before it add. -/
def exponentPart (negative : Bool) (significand : Nat) (exponent : Int) : Reader Numeral := do
  Reader.advance
  let sign ← Reader.peek
  if sign = some '+' || sign = some '-' then Reader.advance
  match ← Reader.next with
  | none => Reader.stop .endInValue
  | some c =>
    if c.isDigit then
      let written := valueOf (c :: (← Reader.run Char.isDigit))
      let down := sign = some '-'
      if maxExponent < written then
        if significand ≠ 0 ∧ ¬down then Reader.stop .numberTooLarge
        else fromParts negative 0 0
      else fromParts negative significand (if down then exponent - written else exponent + written)
    else Reader.stop .badNumber

/-- From the point on. `exponent` is what digits left out before it add. -/
def fractionPart (negative : Bool) (significand : Nat) (exponent : Int) : Reader Numeral := do
  Reader.advance
  let digits ← Reader.run Char.isDigit
  let following ← Reader.peek
  if digits.isEmpty then
    Reader.stop (if following.isNone then .endInValue else .badNumber)
  else
    let (significand, unused) := gather significand digits
    let exponent := exponent - ((digits.length : Int) - unused.length)
    if following = some 'e' || following = some 'E' then exponentPart negative significand exponent
    else fromParts negative significand exponent

/-- What follows the integer digits, of which `unused` did not fit. -/
def tail (negative : Bool) (significand unused : Nat) : Reader Numeral := do
  match ← Reader.peek with
  | some '.' => fractionPart negative significand unused
  | some 'e' => exponentPart negative significand unused
  | some 'E' => exponentPart negative significand unused
  | _ =>
    if unused ≠ 0 then fromParts negative significand unused
    else if ¬negative then pure (.integer significand)
    else if significand = 0 ∨ 9223372036854775808 < significand then
      pure (.float (-Double.ofNat significand))
    else pure (.integer (-significand))

/-- A literal after its sign. Only a single zero may begin with a zero. -/
def read (negative : Bool) : Reader Numeral := do
  match ← Reader.next with
  | none => Reader.stop .endInValue
  | some c =>
    if c = '0' then
      if (← Reader.peek).any Char.isDigit then Reader.stop .badNumber else tail negative 0 0
    else if c.isDigit then
      let (significand, unused) := gather (digitValue c) (← Reader.run Char.isDigit)
      tail negative significand unused.length
    else Reader.stop .badNumber

end Numeral

end FusionSensors.Json
