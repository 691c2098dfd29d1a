/-
# FusionSensors.Sample -- processed samples and their layout

A producer hands in samples: up to sixteen processed values, the time they
belong to, and the period at which the producer runs. A fused sample keeps an
orientation, the gravity and the linear acceleration in three slots that lie
side by side.
-/
import FusionSensors.Fault
import FusionSensors.Payload
import FusionSensors.Json.Schema

namespace FusionSensors

set_option autoImplicit false

/-- A processed sample. Times are in nanoseconds. -/
structure Sample where
  values : Payload
  timestamp : Int
  period : Int
  deriving DecidableEq, Repr

/-- A stretch of a fused sample. -/
structure Slot where
  start : Nat
  size : Nat
  deriving DecidableEq, Repr

namespace Slot

/-- The orientation, as x, y, z, w. -/
def quaternion : Slot := ⟨0, 4⟩

def gravity : Slot := ⟨4, 3⟩

def linearAcceleration : Slot := ⟨7, 3⟩

end Slot

namespace Sample

/-- A sample of zeros. -/
def blank (timestamp period : Int) : Sample := ⟨.zero, timestamp, period⟩

/-- A sample of the given values followed by zeros; more than sixteen are refused. -/
def ofValues (values : List Single) (timestamp period : Int) : Except Fault Sample :=
  if Payload.capacity < values.length then
    .error (.invalidParameters (.tooManyValues values.length))
  else .ok ⟨.ofList values, timestamp, period⟩

/-- Fills a slot; values beyond its size are left out. -/
def fill (sample : Sample) (slot : Slot) (values : List Single) : Sample :=
  { sample with values := sample.values.write slot.start (values.take slot.size) }

/-- Sets the orientation. -/
def withQuaternion (sample : Sample) (x y z w : Single) : Sample :=
  sample.fill .quaternion [x, y, z, w]

/-- Sets the gravity. -/
def withGravity (sample : Sample) (x y z : Single) : Sample := sample.fill .gravity [x, y, z]

/-- Sets the linear acceleration. -/
def withLinearAcceleration (sample : Sample) (x y z : Single) : Sample :=
  sample.fill .linearAcceleration [x, y, z]

def schema : Json.Schema Sample where
  name := "SensorBaseData"
  blank := blank 0 0
  filled := false
  members :=
    [ .of "processed" Payload.format Sample.values fun v s => { s with values := v },
      .of "timestamp" .int64 Sample.timestamp fun v s => { s with timestamp := v },
      .of "pollrate_ns" .int64 Sample.period fun v s => { s with period := v } ]

end Sample

end FusionSensors
