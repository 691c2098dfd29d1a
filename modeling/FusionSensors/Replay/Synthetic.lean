/-
# FusionSensors.Replay.Synthetic -- samples of a slow turn

Synthetic samples show a device that turns about the vertical axis at half a
radian a second while it swings along its first axis. They come at a steady
rate, the first one period after time zero. All values are computed in single
precision.
-/
import FusionSensors.Sample

namespace FusionSensors.Replay

set_option autoImplicit false

/-- A vector of single precision. -/
structure Vector3 where
  x : Float32
  y : Float32
  z : Float32

namespace Vector3

def cross (a b : Vector3) : Vector3 :=
  ⟨a.y * b.z - a.z * b.y, a.z * b.x - a.x * b.z, a.x * b.y - a.y * b.x⟩

def scale (a : Vector3) (k : Float32) : Vector3 := ⟨a.x * k, a.y * k, a.z * k⟩

instance : Add Vector3 := ⟨fun a b => ⟨a.x + b.x, a.y + b.y, a.z + b.z⟩⟩

end Vector3

/-- A rotation, as vector part and scalar part. -/
structure Rotation where
  axis : Vector3
  w : Float32

namespace Rotation

/-- The rotation about the vertical axis by an angle. -/
def aboutVertical (angle : Float32) : Rotation :=
  let half := angle / 2
  ⟨Vector3.scale ⟨0, 0, 1⟩ half.sin, half.cos⟩

/-- The rotation the other way. -/
def inverse (q : Rotation) : Rotation := ⟨⟨-q.axis.x, -q.axis.y, -q.axis.z⟩, q.w⟩

/-- Turns a vector. -/
def apply (q : Rotation) (v : Vector3) : Vector3 :=
  let t := (q.axis.cross v).scale 2
  t.scale q.w + q.axis.cross t + v

end Rotation

/-- The Earth's gravity. -/
def gravityEarth : Float32 := 9.80665

/-- The period of a rate in hertz, in nanoseconds; a rate of zero counts as one. -/
def periodOfRate (rate : Nat) : Nat := 1000000000 / max rate 1

/-- The synthetic sample with a number, counted from zero. -/
def syntheticSample (rate number : Nat) : Sample :=
  let period := periodOfRate rate
  let t := Float32.ofNat number * Float32.ofNat period / 1000000000
  let orientation := Rotation.aboutVertical (0.5 * t)
  let gravity := orientation.inverse.apply ⟨0, 0, gravityEarth⟩
  let single := Single.ofFloat32
  (Sample.blank ((number + 1) * period) period)
    |>.withQuaternion (single orientation.axis.x) (single orientation.axis.y)
      (single orientation.axis.z) (single orientation.w)
    |>.withGravity (single gravity.x) (single gravity.y) (single gravity.z)
    |>.withLinearAcceleration (single (0.2 * (t * 2).sin)) .zero .zero

/-- A number of synthetic samples. -/
def syntheticSamples (count rate : Nat) : List Sample :=
  (List.range count).map (syntheticSample rate)

end FusionSensors.Replay
