/-
# FusionSensors.Leaf -- the software sensors of a fused sample

Three sensors repackage one slot each of a fused accelerometer and gyroscope
sample. They are as fine and as fast as the fusion they come from and have a
range of their own.
-/
import FusionSensors.Node

namespace FusionSensors

set_option autoImplicit false

/-- A sensor that repackages a slot of the fused sample. -/
inductive Leaf where
  | gameRotationVector
  | gravity
  | linearAcceleration
  deriving DecidableEq, Repr

namespace Leaf

def all : List Leaf := [.gameRotationVector, .gravity, .linearAcceleration]

/-- The name of a leaf in configurations. -/
def name : Leaf → String
  | .gameRotationVector => "game_rotation_vector"
  | .gravity => "gravity"
  | .linearAcceleration => "linear_acceleration"

def format : Json.Format Leaf := .variants (all.map fun leaf => (leaf.name, leaf)) name

def kind : Leaf → SensorKind
  | .gameRotationVector => .gameRotationVector
  | .gravity => .gravity
  | .linearAcceleration => .linearAcceleration

/-- The part of a fused sample that the leaf reports. -/
def slot : Leaf → Slot
  | .gameRotationVector => .quaternion
  | .gravity => .gravity
  | .linearAcceleration => .linearAcceleration

def shape : Leaf → Shape
  | .gameRotationVector => .axis4
  | .gravity | .linearAcceleration => .axis3

/-- Components of an orientation lie within 1; accelerations within twice the
Earth's gravity of 9.80665. -/
def maxRange : Leaf → Single
  | .gameRotationVector => ⟨0x3F800000⟩
  | .gravity | .linearAcceleration => ⟨0x419CE80A⟩

theorem size_shape (leaf : Leaf) : leaf.shape.size = leaf.slot.size := by cases leaf <;> rfl

/-- The node of a leaf, disabled and without a provider. -/
def node (leaf : Leaf) (name : String) (handle : Int) : Node :=
  let blank := Node.blank name handle leaf.kind .leaf leaf.shape
  { blank with
    descriptor := { blank.descriptor with maxRange := leaf.maxRange }
    dependencies := [.accelGyroFusion]
    trigger := some 0
    start := leaf.slot.start }

end Leaf

end FusionSensors
