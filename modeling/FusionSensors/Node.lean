/-
# FusionSensors.Node -- a software sensor

A node consumes samples of the sensor that triggers it. One cycle copies the
node's slot of the sample into its event, offers the event to the outlet, and,
if the node forwards, keeps the event as the node's own output.

An offered event reaches the outlet only in a session, that is while the node
is enabled: events from before the session and the first few of it are
dropped, and the gate paces the rest (`verdict`). Every offer is counted under
exactly one heading.
-/
import FusionSensors.Descriptor
import FusionSensors.Gate
import FusionSensors.Note
import FusionSensors.Pipe
import FusionSensors.Sample

namespace FusionSensors

set_option autoImplicit false

/-! ## Counters -/

/-- What a node has done so far. -/
structure Stats where
  processed : Nat := 0
  offered : Nat := 0
  delivered : Nat := 0
  decimated : Nat := 0
  dropped : Nat := 0
  /-- the producer's period at the last offer -/
  lastPeriod : Option Int := none
  deriving DecidableEq, Repr

namespace Stats

def countOffered (stats : Stats) (producer : Int) : Stats :=
  { stats with offered := stats.offered + 1, lastPeriod := some producer }

def countProcessed (stats : Stats) : Stats := { stats with processed := stats.processed + 1 }

def countDelivered (stats : Stats) : Stats := { stats with delivered := stats.delivered + 1 }

def countDecimated (stats : Stats) : Stats := { stats with decimated := stats.decimated + 1 }

def countDropped (stats : Stats) : Stats := { stats with dropped := stats.dropped + 1 }

def schema : Json.Schema Stats where
  name := "NodeStats"
  blank := {}
  filled := false
  members :=
    [ .of "processed" .nat64 Stats.processed fun v s => { s with processed := v },
      .of "pipe_requests" .nat64 Stats.offered fun v s => { s with offered := v },
      .of "delivered" .nat64 Stats.delivered fun v s => { s with delivered := v },
      .of "decimated" .nat64 Stats.decimated fun v s => { s with decimated := v },
      .of "dropped" .nat64 Stats.dropped fun v s => { s with dropped := v },
      .mayLack (.of "last_pipe_period_ns" (.optional .int64) Stats.lastPeriod
        fun v s => { s with lastPeriod := v }) ]

end Stats

/-! ## The node -/

/-- A stretch of time in which a node is enabled. -/
structure Session where
  /-- the clock's reading when it began -/
  since : Int
  /-- events still to be dropped -/
  toDiscard : Nat
  deriving DecidableEq, Repr

/-- A software sensor. -/
structure Node where
  descriptor : Descriptor
  inheritance : Inheritance
  /-- kinds of the sensors that the node needs -/
  dependencies : List SensorKind
  /-- the place among them of the one whose samples drive the node -/
  trigger : Option Nat
  /-- where its values begin in a sample -/
  start : Nat
  /-- whether it hands its output on -/
  forwards : Bool
  /-- how many events each session drops first -/
  warmup : Nat
  event : Event
  gate : Gate
  session : Option Session
  output : Option Sample
  stats : Stats
  deriving DecidableEq, Repr

namespace Node

/-- A node without dependencies, disabled. -/
def blank (name : String) (handle : Int) (kind : SensorKind) (inheritance : Inheritance)
    (shape : Shape) : Node where
  descriptor := .ofKind name handle kind
  inheritance := inheritance
  dependencies := []
  trigger := none
  start := 0
  forwards := true
  warmup := 0
  event := .blank handle kind shape
  gate := {}
  session := none
  output := none
  stats := {}

def handle (node : Node) : Int := node.descriptor.handle

def kind (node : Node) : SensorKind := node.descriptor.kind

/-- The kind whose samples drive the node. -/
def triggerKind (node : Node) : Option SensorKind :=
  node.trigger.bind fun place => node.dependencies[place]?

def isEnabled (node : Node) : Bool := node.session.isSome

/-- The requested period; zero as long as none was requested. -/
def period (node : Node) : Int := node.gate.requested

/-! ## Setting up -/

/-- Adds a dependency at the end. -/
def addDependency (node : Node) (kind : SensorKind) : Node :=
  { node with dependencies := node.dependencies ++ [kind] }

def setTrigger (node : Node) (place : Nat) : Node := { node with trigger := some place }

def setWarmup (node : Node) (events : Nat) : Node := { node with warmup := events }

/-- Takes over what the node inherits from its provider. -/
def resolve (node : Node) (provider : Descriptor) : Logged Node := do
  let descriptor := node.descriptor.inherit provider node.inheritance
  Logged.note (.resolved descriptor.name descriptor.handle provider.name)
  pure { node with descriptor := descriptor }

/-! ## Control -/

/-- Enables or disables a node; a node that is already so is left as it is. A
new session begins with a gate that remembers no event, and the end of a
session takes the output away. -/
def switch (node : Node) (on : Bool) (now : Int) : Logged Node :=
  if on = node.isEnabled then pure node
  else do
    Logged.note (.switched node.descriptor.name node.handle on)
    pure { node with
      gate := node.gate.reset
      session := if on then some ⟨now, node.warmup⟩ else none
      output := if on then node.output else none }

/-- Requests a period and answers the supported one that was set. -/
def setPeriod (node : Node) (period : Int) : Except Fault (Logged (Node × Int)) :=
  if period ≤ 0 then .error (.invalidPeriod period)
  else
    let effective := node.descriptor.clampPeriod period
    .ok do
      Logged.note (.periodSet node.descriptor.name node.handle effective)
      pure ({ node with gate := node.gate.request effective }, effective)

section Events

variable {σ : Type} [Outlet σ]

/-- Sends a flush mark behind the events of the session. -/
def flush (node : Node) (outlet : σ) (now : Int) : Except Fault σ :=
  if node.isEnabled then Outlet.send outlet (.flushMark node.handle now)
  else .error (.notEnabled node.handle)

/-! ## Offering an event -/

/-- What becomes of the node's event before it meets the outlet. -/
inductive Verdict where
  /-- no session, or the event is older than the session -/
  | outside
  /-- one of the first events of the session -/
  | warmingUp
  | decimated
  | stale
  | due
  deriving DecidableEq, Repr

/-- What becomes of the node's event, offered by a producer of period `producer`. -/
def verdict (node : Node) (producer : Int) : Verdict :=
  match node.session with
  | none => .outside
  | some session =>
    if node.event.timestamp < session.since then .outside
    else if 0 < session.toDiscard then .warmingUp
    else
      match node.gate.decide node.event.timestamp producer with
      | .deliver => .due
      | .decimated => .decimated
      | .stale => .stale

/-- The session after one more event of its warm-up. -/
def warmedUp (node : Node) : Option Session :=
  node.session.map fun session => { session with toDiscard := session.toDiscard - 1 }

/-- Offers the node's event to the outlet. The gate takes note of an event that
is due whether or not the outlet accepts it. -/
def offer (node : Node) (outlet : σ) (producer : Int) : Logged (Node × σ) :=
  let stats := node.stats.countOffered producer
  let name := node.descriptor.name
  match node.verdict producer with
  | .outside => pure ({ node with stats := stats.countDropped }, outlet)
  | .warmingUp => pure ({ node with session := node.warmedUp, stats := stats.countDropped }, outlet)
  | .decimated => pure ({ node with stats := stats.countDecimated }, outlet)
  | .stale => do
    Logged.note (.staleEvent name node.event.timestamp)
    pure ({ node with stats := stats.countDropped }, outlet)
  | .due =>
    let gate := (node.gate.offer node.event.timestamp producer).2
    let dropped := { node with gate := gate, stats := stats.countDropped }
    if Outlet.connected outlet then
      match Outlet.send outlet node.event with
      | .ok outlet => pure ({ node with gate := gate, stats := stats.countDelivered }, outlet)
      | .error .pipeFull => do
        Logged.note (.eventLost name)
        pure (dropped, outlet)
      | .error fault => do
        Logged.note (.eventRefused name fault)
        pure (dropped, outlet)
    else pure (dropped, outlet)

/-! ## One cycle -/

/-- Sets the event from the node's slot of a sample. -/
def receive (node : Node) (sample : Sample) : Node :=
  { node with
    event := { node.event.fill (sample.values.slice node.start node.event.shape.size) with
      timestamp := sample.timestamp } }

/-- Keeps the event's values as the node's output, at the period of the sample
they came from. -/
def keepOutput (node : Node) (producer : Int) : Node :=
  { node with
    output := some ⟨.ofList node.event.values, node.event.timestamp, producer⟩
    stats := node.stats.countProcessed }

/-- Consumes a sample. -/
def cycle (node : Node) (outlet : σ) (sample : Sample) : Logged (Node × σ) := do
  let (offered, outlet) ← (node.receive sample).offer outlet sample.period
  pure (if node.forwards then offered.keepOutput sample.period else offered, outlet)

end Events

end Node

end FusionSensors
