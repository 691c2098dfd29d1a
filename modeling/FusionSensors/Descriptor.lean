/-
# FusionSensors.Descriptor -- what a sensor is

A descriptor is the entry of a sensor in the list that applications see. Its
delay limits bound the period that may be requested (`clampPeriod`), and a
software sensor takes some of its fields over from its provider (`inherit`).
-/
import FusionSensors.Payload
import FusionSensors.SensorKind
import FusionSensors.Json.Schema

namespace FusionSensors

set_option autoImplicit false

/-- When a sensor reports. -/
inductive ReportingMode where
  | continuous
  | onChange
  | oneShot
  | specialTrigger
  deriving DecidableEq, Repr

namespace ReportingMode

def all : List ReportingMode := [.continuous, .onChange, .oneShot, .specialTrigger]

def name : ReportingMode → String
  | .continuous => "Continuous"
  | .onChange => "OnChange"
  | .oneShot => "OneShot"
  | .specialTrigger => "SpecialTrigger"

def format : Json.Format ReportingMode := .variants (all.map fun mode => (mode.name, mode)) name

end ReportingMode

/-- Which fields a software sensor takes over from its provider. -/
structure Inheritance where
  resolution : Bool
  range : Bool
  delay : Bool
  name : Bool
  deriving DecidableEq, Repr

namespace Inheritance

/-- Takes over nothing. -/
def nothing : Inheritance := ⟨false, false, false, false⟩

/-- A leaf is as fine and as fast as its provider, and has a range of its own. -/
def leaf : Inheritance := ⟨true, false, true, false⟩

def schema : Json.Schema Inheritance where
  name := "DependencyInheritance"
  blank := nothing
  filled := false
  members :=
    [ .of "resolution" .boolean Inheritance.resolution fun b i => { i with resolution := b },
      .of "range" .boolean Inheritance.range fun b i => { i with range := b },
      .of "delay" .boolean Inheritance.delay fun b i => { i with delay := b },
      .of "name" .boolean Inheritance.name fun b i => { i with name := b } ]

end Inheritance

/-- The entry of a sensor in the list of sensors. Delay limits are in
microseconds; a largest delay that is not positive sets no limit. -/
structure Descriptor where
  name : String
  vendor : String := ""
  version : Int := 1
  handle : Int
  kind : SensorKind
  dotted : String := kind.dotted
  maxRange : Single := .zero
  resolution : Single := .zero
  power : Single := .zero
  minDelay : Int := 0
  maxDelay : Int := 0
  fifoReserved : Nat := 0
  fifoMax : Nat := 0
  wakeUp : Bool := false
  mode : ReportingMode := .continuous
  deriving DecidableEq, Repr

namespace Descriptor

/-- The descriptor of a kind, everything else at its default. -/
def ofKind (name : String) (handle : Int) (kind : SensorKind) : Descriptor :=
  { name := name, handle := handle, kind := kind }

/-- The supported period, in nanoseconds, that serves a requested one: raised
to the least delay, then lowered to the largest one if there is a limit. -/
def clampPeriod (d : Descriptor) (period : Int) : Int :=
  let raised := max period (d.minDelay * 1000)
  if 0 < d.maxDelay then min raised (d.maxDelay * 1000) else raised

/-- Takes the chosen fields over from a provider and adds its power. -/
def inherit (d provider : Descriptor) (fields : Inheritance) : Descriptor :=
  { d with
    resolution := if fields.resolution then provider.resolution else d.resolution
    maxRange := if fields.range then provider.maxRange else d.maxRange
    minDelay := if fields.delay then provider.minDelay else d.minDelay
    maxDelay := if fields.delay then provider.maxDelay else d.maxDelay
    name := if fields.name then provider.name else d.name
    power := d.power + provider.power }

/-- Puts a descriptor into a list that ascends by handle. -/
def insertByHandle (d : Descriptor) : List Descriptor → List Descriptor
  | [] => [d]
  | first :: rest =>
    if d.handle < first.handle then d :: first :: rest else first :: insertByHandle d rest

def schema : Json.Schema Descriptor where
  name := "SensorDescriptor"
  blank := ofKind "" 0 .metaData
  filled := false
  members :=
    [ .of "name" .text Descriptor.name fun v d => { d with name := v },
      .of "vendor" .text Descriptor.vendor fun v d => { d with vendor := v },
      .of "version" .int32 Descriptor.version fun v d => { d with version := v },
      .of "handle" .int32 Descriptor.handle fun v d => { d with handle := v },
      .of "sensor_type" SensorKind.format Descriptor.kind fun v d => { d with kind := v },
      .of "string_type" .text Descriptor.dotted fun v d => { d with dotted := v },
      .of "max_range" .single Descriptor.maxRange fun v d => { d with maxRange := v },
      .of "resolution" .single Descriptor.resolution fun v d => { d with resolution := v },
      .of "power_ma" .single Descriptor.power fun v d => { d with power := v },
      .of "min_delay_us" .int32 Descriptor.minDelay fun v d => { d with minDelay := v },
      .of "max_delay_us" .int32 Descriptor.maxDelay fun v d => { d with maxDelay := v },
      .of "fifo_reserved_event_count" .nat32 Descriptor.fifoReserved
        fun v d => { d with fifoReserved := v },
      .of "fifo_max_event_count" .nat32 Descriptor.fifoMax fun v d => { d with fifoMax := v },
      .of "wake_up" .boolean Descriptor.wakeUp fun v d => { d with wakeUp := v },
      .of "reporting_mode" ReportingMode.format Descriptor.mode fun v d => { d with mode := v } ]

end Descriptor

end FusionSensors
