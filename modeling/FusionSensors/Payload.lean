/-
# FusionSensors.Payload -- the sixteen values of a sample or an event

Samples and events carry the same fixed number of single values. Those that
belong to somebody stand in a contiguous slot; all others are zero. `slice`
reads a slot and `write` fills one, and neither touches a bit of a value.
-/
import FusionSensors.Json.Format

namespace FusionSensors

set_option autoImplicit false

/-- How many of its values an event uses, and with what meaning. -/
inductive Shape where
  | none
  | axis1
  | axis3
  | axis3Accuracy
  | axis4
  | axis4Accuracy
  deriving DecidableEq, Repr

namespace Shape

/-- The number of values in use. -/
def size : Shape → Nat
  | .none => 0
  | .axis1 => 1
  | .axis3 => 3
  | .axis3Accuracy => 4
  | .axis4 => 4
  | .axis4Accuracy => 5

def isEmpty (shape : Shape) : Bool := shape.size == 0

def all : List Shape := [.none, .axis1, .axis3, .axis3Accuracy, .axis4, .axis4Accuracy]

def name : Shape → String
  | .none => "None"
  | .axis1 => "Axis1"
  | .axis3 => "Axis3"
  | .axis3Accuracy => "Axis3Accuracy"
  | .axis4 => "Axis4"
  | .axis4Accuracy => "Axis4Accuracy"

def format : Json.Format Shape := .variants (all.map fun shape => (shape.name, shape)) name

end Shape

/-- Sixteen single values. -/
structure Payload where
  values : List Single
  length_values : values.length = 16 := by rfl
  deriving DecidableEq, Repr

namespace Payload

/-- The number of values. -/
def capacity : Nat := 16

/-- All values zero. -/
def zero : Payload := ⟨List.replicate 16 Single.zero, rfl⟩

@[ext] theorem ext {p q : Payload} (h : p.values = q.values) : p = q := by
  cases p; cases q; cases h; rfl

/-- The `count` values from `start` on. -/
def slice (p : Payload) (start count : Nat) : List Single := (p.values.drop start).take count

/-- Puts values at `start` and after; what would stand beyond the end is left out. -/
def write (p : Payload) (start : Nat) (values : List Single) : Payload where
  values := p.values.mapIdx fun i old => if i < start then old else values[i - start]?.getD old
  length_values := by rw [List.length_mapIdx, p.length_values]

theorem values_write (p : Payload) (start : Nat) (values : List Single) (i : Nat) :
    (p.write start values).values[i]? =
      p.values[i]?.map fun old => if i < start then old else values[i - start]?.getD old := by
  simp [write]

/-- A list of values followed by zeros. -/
def ofList (values : List Single) : Payload := zero.write 0 values

/-- The values without the zeros at the end. -/
def trimmed (p : Payload) : List Single :=
  (p.values.reverse.dropWhile (· == Single.zero)).reverse

/-- All sixteen values are written, and all sixteen must be given. -/
def format : Json.Format Payload where
  read := return ofList (← Json.Reader.exactly 16 Json.Reader.single)
  write p := .list (p.values.map .single)

example : (ofList [⟨1⟩, ⟨2⟩]).slice 1 2 = [⟨2⟩, ⟨0⟩] := by decide

end Payload

end FusionSensors
