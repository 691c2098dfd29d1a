/-
# FusionSensors.Event -- what sensors report

An event carries the values of one report of one sensor, or marks the end of
a flush. Values beyond the event's shape stay zero.
-/
import FusionSensors.Payload
import FusionSensors.SensorKind
import FusionSensors.Json.Schema

namespace FusionSensors

set_option autoImplicit false

/-- What an event tells. -/
inductive Event.Content where
  | data
  | flushComplete
  deriving DecidableEq, Repr

/-- A report of a sensor, named by its handle. -/
structure Event where
  sensor : Int
  kindId : Int
  timestamp : Int
  data : Payload
  shape : Shape
  content : Event.Content
  deriving DecidableEq, Repr

namespace Event

namespace Content

def all : List Content := [.data, .flushComplete]

def name : Content → String
  | .data => "Data"
  | .flushComplete => "FlushComplete"

def format : Json.Format Content := .variants (all.map fun content => (content.name, content)) name

end Content

/-- A data event of zeros at time zero. -/
def blank (sensor : Int) (kind : SensorKind) (shape : Shape) : Event :=
  ⟨sensor, kind.id, 0, .zero, shape, .data⟩

/-- The mark that all earlier events of a sensor have been reported. -/
def flushMark (sensor timestamp : Int) : Event :=
  ⟨sensor, SensorKind.metaData.id, timestamp, .zero, .none, .flushComplete⟩

/-- The values that the shape has in use. -/
def values (event : Event) : List Single := event.data.slice 0 event.shape.size

/-- Sets the values in use, as many as the shape has. -/
def fill (event : Event) (values : List Single) : Event :=
  { event with data := event.data.write 0 (values.take event.shape.size) }

def isFlushMark (event : Event) : Bool := event.content == .flushComplete

def schema : Json.Schema Event where
  name := "SensorEvent"
  blank := blank 0 .metaData .none
  filled := false
  members :=
    [ .of "sensor" .int32 Event.sensor fun v e => { e with sensor := v },
      .of "sensor_type" .int32 Event.kindId fun v e => { e with kindId := v },
      .of "timestamp" .int64 Event.timestamp fun v e => { e with timestamp := v },
      .of "data" Payload.format Event.data fun v e => { e with data := v },
      .of "data_len" Shape.format Event.shape fun v e => { e with shape := v },
      .of "kind" Content.format Event.content fun v e => { e with content := v } ]

/-- An event as one line of text. -/
def line (event : Event) : String := (schema.write event).line

end Event

end FusionSensors
