/-
# FusionSensors.Config -- which sensors there are

A configuration names the fused provider and lists the leaf sensors that hang
on it. It is read from JSON, where everything but the contents of a sensor
entry has a default. A configuration is valid if the pipe has room, the
default period is positive, and no handle is used twice.
-/
import FusionSensors.File
import FusionSensors.Leaf

namespace FusionSensors

set_option autoImplicit false

/-- The provider of fused samples. -/
structure FusionEntry where
  name : String := "Accel-Gyro Fusion 6X"
  handle : Int := 100
  /-- nearest to 78.4 -/
  maxRange : Single := ⟨0x429CCCCD⟩
  /-- nearest to 0.0001 -/
  resolution : Single := ⟨0x38D1B717⟩
  /-- exactly 0.5 -/
  power : Single := ⟨0x3F000000⟩
  minDelay : Int := 2500
  maxDelay : Int := 1000000
  deriving DecidableEq, Repr

namespace FusionEntry

/-- The descriptor of the provider. -/
def descriptor (fusion : FusionEntry) (vendor : String) : Descriptor :=
  { Descriptor.ofKind fusion.name fusion.handle .accelGyroFusion with
    vendor := vendor
    maxRange := fusion.maxRange
    resolution := fusion.resolution
    power := fusion.power
    minDelay := fusion.minDelay
    maxDelay := fusion.maxDelay }

def schema : Json.Schema FusionEntry where
  name := "FusionConfig"
  blank := {}
  filled := true
  members :=
    [ .of "name" .text FusionEntry.name fun v f => { f with name := v },
      .of "handle" .int32 FusionEntry.handle fun v f => { f with handle := v },
      .of "max_range" .single FusionEntry.maxRange fun v f => { f with maxRange := v },
      .of "resolution" .single FusionEntry.resolution fun v f => { f with resolution := v },
      .of "power_ma" .single FusionEntry.power fun v f => { f with power := v },
      .of "min_delay_us" .int32 FusionEntry.minDelay fun v f => { f with minDelay := v },
      .of "max_delay_us" .int32 FusionEntry.maxDelay fun v f => { f with maxDelay := v } ]

end FusionEntry

/-- A leaf sensor. -/
structure LeafEntry where
  name : String
  handle : Int
  leaf : Leaf
  deriving DecidableEq, Repr

namespace LeafEntry

/-- The node of an entry, disabled and without a provider. -/
def node (entry : LeafEntry) : Node := entry.leaf.node entry.name entry.handle

def schema : Json.Schema LeafEntry where
  name := "SwSensorEntry"
  blank := ⟨"", 0, .gravity⟩
  filled := false
  members :=
    [ .of "name" .text LeafEntry.name fun v e => { e with name := v },
      .of "handle" .int32 LeafEntry.handle fun v e => { e with handle := v },
      .of "kind" Leaf.format LeafEntry.leaf fun v e => { e with leaf := v } ]

end LeafEntry

/-- The sensors of a hub and how it runs them. -/
structure Config where
  vendor : String := "Software Sensors"
  pipeCapacity : Nat := 256
  /-- events that each session of a sensor drops first -/
  warmup : Nat := 0
  /-- in nanoseconds -/
  defaultPeriod : Int := 200000000
  fusion : FusionEntry := {}
  sensors : List LeafEntry :=
    [ ⟨"Game Rotation Vector", 1, .gameRotationVector⟩,
      ⟨"Gravity", 2, .gravity⟩,
      ⟨"Linear Acceleration", 3, .linearAcceleration⟩ ]
  deriving DecidableEq, Repr

namespace Config

def schema : Json.Schema Config where
  name := "HalConfig"
  blank := {}
  filled := true
  members :=
    [ .of "vendor" .text Config.vendor fun v c => { c with vendor := v },
      .of "pipe_capacity" .size Config.pipeCapacity fun v c => { c with pipeCapacity := v },
      .of "samples_to_discard" .nat32 Config.warmup fun v c => { c with warmup := v },
      .of "default_pollrate_ns" .int64 Config.defaultPeriod fun v c => { c with defaultPeriod := v },
      .of "fusion" FusionEntry.schema.format Config.fusion fun v c => { c with fusion := v },
      .of "sensors" (.list LeafEntry.schema.format) Config.sensors fun v c => { c with sensors := v } ]

/-! ## Validity -/

/-- The handles of the provider and of the sensors, in this order. -/
def handles (config : Config) : List Int :=
  config.fusion.handle :: config.sensors.map LeafEntry.handle

/-- The first handle of a list that stands before it already. -/
def firstRepeated (seen : List Int) : List Int → Option Int
  | [] => none
  | handle :: rest =>
    if seen.contains handle then some handle else firstRepeated (handle :: seen) rest

/-- Refuses a configuration that is not valid. -/
def validate (config : Config) : Except Fault Unit :=
  if config.pipeCapacity = 0 then .error (.config .zeroCapacity)
  else if config.defaultPeriod ≤ 0 then .error (.config .periodNotPositive)
  else
    match firstRepeated [] config.handles with
    | some handle => .error (.config (.repeatedHandle handle))
    | none => .ok ()

/-! ## As text -/

/-- Reads a valid configuration. -/
def ofText (text : String) : Except Fault Config :=
  match Json.Reader.whole schema.read text with
  | .error defect => .error (.config (.malformed defect))
  | .ok config => do
    config.validate
    return config

/-- Reads a valid configuration from the file at a path. -/
def load (path : String) (file : File) : Except Fault Config :=
  match file.text with
  | .error reason => .error (.config (.unreadable path reason))
  | .ok text => ofText text

/-- Writes a configuration over many lines. -/
def page (config : Config) : String := (schema.write config).page

end Config

end FusionSensors
