import FusionSensors.Binding
import FusionSensors.Clock
import FusionSensors.Config
import FusionSensors.Decimal.Layout
import FusionSensors.Decimal.Shortest
import FusionSensors.Descriptor
import FusionSensors.Double
import FusionSensors.Event
import FusionSensors.Fault
import FusionSensors.File
import FusionSensors.Gate
import FusionSensors.Hub.Basic
import FusionSensors.Hub.Command
import FusionSensors.Hub.Deliver
import FusionSensors.Hub.Demand
import FusionSensors.Hub.Setup
import FusionSensors.Json.Defect
import FusionSensors.Json.Doc
import FusionSensors.Json.Escape
import FusionSensors.Json.Format
import FusionSensors.Json.Numeral
import FusionSensors.Json.Reader
import FusionSensors.Json.Schema
import FusionSensors.Json.Skip
import FusionSensors.Leaf
import FusionSensors.Magnitude
import FusionSensors.Main
import FusionSensors.Node
import FusionSensors.Note
import FusionSensors.Payload
import FusionSensors.Pipe
import FusionSensors.Proofs.Attempts
import FusionSensors.Proofs.Calls
import FusionSensors.Proofs.Cascade
import FusionSensors.Proofs.Clamping
import FusionSensors.Proofs.Closing
import FusionSensors.Proofs.Configured
import FusionSensors.Proofs.Conservation
import FusionSensors.Proofs.Cycle
import FusionSensors.Proofs.Deciding
import FusionSensors.Proofs.Decimation
import FusionSensors.Proofs.Delivery
import FusionSensors.Proofs.Demand
import FusionSensors.Proofs.Editing
import FusionSensors.Proofs.EventText
import FusionSensors.Proofs.Fifo
import FusionSensors.Proofs.Follow
import FusionSensors.Proofs.Grammar
import FusionSensors.Proofs.Handover
import FusionSensors.Proofs.InPlace
import FusionSensors.Proofs.Inheritance
import FusionSensors.Proofs.Isolation
import FusionSensors.Proofs.Limits
import FusionSensors.Proofs.Lines
import FusionSensors.Proofs.Listing
import FusionSensors.Proofs.Literals
import FusionSensors.Proofs.Loading
import FusionSensors.Proofs.Members
import FusionSensors.Proofs.Onset
import FusionSensors.Proofs.Operation
import FusionSensors.Proofs.Origin
import FusionSensors.Proofs.Pace
import FusionSensors.Proofs.Participation
import FusionSensors.Proofs.Playable
import FusionSensors.Proofs.Printing
import FusionSensors.Proofs.Reachable
import FusionSensors.Proofs.Reading
import FusionSensors.Proofs.Rearranging
import FusionSensors.Proofs.Records
import FusionSensors.Proofs.Refusal
import FusionSensors.Proofs.Registration
import FusionSensors.Proofs.Replaying
import FusionSensors.Proofs.RoundTrip
import FusionSensors.Proofs.Search
import FusionSensors.Proofs.Sentinel
import FusionSensors.Proofs.Serving
import FusionSensors.Proofs.Session
import FusionSensors.Proofs.Settling
import FusionSensors.Proofs.Skipping
import FusionSensors.Proofs.Slots
import FusionSensors.Proofs.Spacing
import FusionSensors.Proofs.Stamping
import FusionSensors.Proofs.Steady
import FusionSensors.Proofs.Sweep
import FusionSensors.Proofs.Trailing
import FusionSensors.Proofs.Trimming
import FusionSensors.Proofs.Walk
import FusionSensors.Proofs.Writing
import FusionSensors.Replay.Arguments
import FusionSensors.Replay.Record
import FusionSensors.Replay.Run
import FusionSensors.Replay.Synthetic
import FusionSensors.Sample
import FusionSensors.SensorKind
import FusionSensors.Single
import FusionSensors.Text.Blank
import FusionSensors.Text.Lines
import FusionSensors.Text.Quoted
import FusionSensors.Text.Unprintable
