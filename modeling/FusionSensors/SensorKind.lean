/-
# FusionSensors.SensorKind -- what a sensor measures

Every kind has a number and a dotted name. The fused kinds are private to the
vendor, and their numbers start above `privateBase`.
-/
import FusionSensors.Json.Format

namespace FusionSensors

set_option autoImplicit false

/-- The kind of a sensor. -/
inductive SensorKind where
  | metaData
  | accelerometer
  | magneticField
  | gyroscope
  | gravity
  | linearAcceleration
  | rotationVector
  | gameRotationVector
  | geomagneticRotationVector
  | accelGyroFusion
  | accelMagnFusion
  | accelMagnGyroFusion
  deriving DecidableEq, Repr

namespace SensorKind

/-- The first number of vendor-private kinds. -/
def privateBase : Int := 0x10000

/-- The number of a kind. -/
def id : SensorKind → Int
  | .metaData => 0
  | .accelerometer => 1
  | .magneticField => 2
  | .gyroscope => 4
  | .gravity => 9
  | .linearAcceleration => 10
  | .rotationVector => 11
  | .gameRotationVector => 15
  | .geomagneticRotationVector => 20
  | .accelGyroFusion => privateBase + 1
  | .accelMagnFusion => privateBase + 2
  | .accelMagnGyroFusion => privateBase + 3

/-- Every kind, by ascending number. -/
def all : List SensorKind :=
  [.metaData, .accelerometer, .magneticField, .gyroscope, .gravity, .linearAcceleration,
   .rotationVector, .gameRotationVector, .geomagneticRotationVector, .accelGyroFusion,
   .accelMagnFusion, .accelMagnGyroFusion]

/-- The kind with a number. -/
def ofId? (number : Int) : Option SensorKind := all.find? fun kind => kind.id == number

def isPrivate (kind : SensorKind) : Bool := privateBase ≤ kind.id

/-- The name under which a kind is listed. -/
def dotted : SensorKind → String
  | .metaData => "android.sensor.meta_data"
  | .accelerometer => "android.sensor.accelerometer"
  | .magneticField => "android.sensor.magnetic_field"
  | .gyroscope => "android.sensor.gyroscope"
  | .gravity => "android.sensor.gravity"
  | .linearAcceleration => "android.sensor.linear_acceleration"
  | .rotationVector => "android.sensor.rotation_vector"
  | .gameRotationVector => "android.sensor.game_rotation_vector"
  | .geomagneticRotationVector => "android.sensor.geomagnetic_rotation_vector"
  | .accelGyroFusion => "swsensor.accel_gyro_fusion_6x"
  | .accelMagnFusion => "swsensor.accel_magn_fusion_6x"
  | .accelMagnGyroFusion => "swsensor.accel_magn_gyro_fusion_9x"

/-- The name of a kind in records and logs. -/
def name : SensorKind → String
  | .metaData => "MetaData"
  | .accelerometer => "Accelerometer"
  | .magneticField => "MagneticField"
  | .gyroscope => "Gyroscope"
  | .gravity => "Gravity"
  | .linearAcceleration => "LinearAcceleration"
  | .rotationVector => "RotationVector"
  | .gameRotationVector => "GameRotationVector"
  | .geomagneticRotationVector => "GeomagneticRotationVector"
  | .accelGyroFusion => "AccelGyroFusion6X"
  | .accelMagnFusion => "AccelMagnFusion6X"
  | .accelMagnGyroFusion => "AccelMagnGyroFusion9X"

theorem mem_all (kind : SensorKind) : kind ∈ all := by cases kind <;> decide

theorem ofId?_id (kind : SensorKind) : ofId? kind.id = some kind := by cases kind <;> decide

/-- Kinds are named in records. -/
def format : Json.Format SensorKind := .variants (all.map fun kind => (kind.name, kind)) name

end SensorKind

end FusionSensors
