/-
# FusionSensors.Hub.Basic -- the hub, its sensors and their control

A hub owns software sensors (its nodes), knows the providers whose samples
drive them, and holds the pipe that all nodes report to. Every sensor has a
handle of its own, every kind at most one provider.

A node meets its provider once, whichever of the two is registered first, and
takes over from it what it inherits. An operation that is refused changes
nothing.
-/
import FusionSensors.Node

namespace FusionSensors

set_option autoImplicit false

/-- Software sensors, their providers, and the pipe they report to. -/
structure Hub where
  /-- software sensors, in order of registration -/
  nodes : List Node
  /-- descriptors of the providers, by ascending handle -/
  providers : List Descriptor
  pipe : Pipe
  /-- the period of a sensor that is enabled before one was requested -/
  defaultPeriod : Int
  deriving DecidableEq, Repr

namespace Hub

/-- The period, in nanoseconds, where nothing else is configured. -/
def usualPeriod : Int := 200000000

/-- A hub without sensors. -/
def new (capacity : Nat) : Hub := ⟨[], [], .bounded capacity, usualPeriod⟩

/-! ## Looking up -/

/-- Whether a handle belongs to a node or a provider. -/
def usesHandle (hub : Hub) (handle : Int) : Bool :=
  hub.nodes.any (·.handle == handle) || hub.providers.any (·.handle == handle)

/-- The provider of a kind. -/
def provider? (hub : Hub) (kind : SensorKind) : Option Descriptor :=
  hub.providers.find? (·.kind == kind)

/-- Where a node triggered by `kind` inherits from: the provider of that kind,
or else the first node of that kind. -/
def source? (hub : Hub) (kind : SensorKind) : Option Descriptor :=
  (hub.provider? kind).or ((hub.nodes.find? (·.kind == kind)).map Node.descriptor)

/-- The node with a handle. -/
def node? (hub : Hub) (handle : Int) : Option Node := hub.nodes.find? (·.handle == handle)

/-- The node with a handle, which must be known. -/
def node (hub : Hub) (handle : Int) : Except Fault Node :=
  match hub.node? handle with
  | some node => .ok node
  | none => .error (.unknownHandle handle)

/-- Puts a changed node in the place of the one with its handle. -/
def put (hub : Hub) (node : Node) : Hub :=
  { hub with nodes := hub.nodes.map fun old => if old.handle = node.handle then node else old }

/-- The entries of all sensors: providers by handle, then nodes in order. -/
def descriptors (hub : Hub) : List Descriptor := hub.providers ++ hub.nodes.map Node.descriptor

/-- The counters of a node. -/
def stats (hub : Hub) (handle : Int) : Except Fault Stats := (hub.node handle).map Node.stats

/-! ## Registration -/

/-- The nodes of a list after those triggered by a new provider have met it. -/
def meet (provider : Descriptor) : List Node → Logged (List Node)
  | [] => pure []
  | node :: rest => do
    let node ← if node.triggerKind = some provider.kind then node.resolve provider else pure node
    return node :: (← meet provider rest)

/-- Registers the provider of a kind. -/
def registerProvider (hub : Hub) (provider : Descriptor) : Except Fault (Logged Hub) :=
  if (hub.provider? provider.kind).isSome then
    .error (.invalidDependency (.alreadyProvided provider.dotted))
  else if hub.usesHandle provider.handle then .error (.duplicateHandle provider.handle)
  else .ok do
    let nodes ← meet provider hub.nodes
    pure { hub with nodes := nodes, providers := provider.insertByHandle hub.providers }

/-- Registers a software sensor, which needs a trigger and must not depend on
its own kind. -/
def register (hub : Hub) (node : Node) : Except Fault (Logged Hub) :=
  if hub.usesHandle node.handle then .error (.duplicateHandle node.handle)
  else
    match node.triggerKind with
    | none => .error (.invalidDependency (.noTrigger node.handle))
    | some trigger =>
      if node.dependencies.contains node.kind then
        .error (.invalidDependency (.ownOutput node.handle))
      else .ok do
        let node ←
          match hub.source? trigger with
          | some source => node.resolve source
          | none => pure node
        Logged.note (.registered node.descriptor.name node.handle node.descriptor.dotted)
        pure { hub with nodes := hub.nodes ++ [node] }

/-! ## Control -/

/-- Enables or disables a node. A node that is enabled before a period was
requested of it gets the default one first. -/
def switch (hub : Hub) (handle : Int) (on : Bool) (now : Int) : Except Fault (Logged Hub) := do
  let node ← hub.node handle
  let paced ←
    if on ∧ node.period = 0 then node.setPeriod hub.defaultPeriod
    else pure (pure (node, node.period))
  return do
    let (node, _) ← paced
    return hub.put (← node.switch on now)

/-- Requests a period of a node and answers the supported one that was set. -/
def setPeriod (hub : Hub) (handle : Int) (period : Int) : Except Fault (Logged (Hub × Int)) := do
  let node ← hub.node handle
  let paced ← node.setPeriod period
  return do
    let (node, effective) ← paced
    return (hub.put node, effective)

/-- Queues a flush mark of a node behind its events. -/
def flush (hub : Hub) (handle : Int) (now : Int) : Except Fault Hub := do
  let node ← hub.node handle
  return { hub with pipe := ← node.flush hub.pipe now }

/-- Takes up to `max` events out of the pipe. -/
def poll (hub : Hub) (max : Nat) : List Event × Hub :=
  let (events, pipe) := hub.pipe.poll max
  (events, { hub with pipe := pipe })

end Hub

end FusionSensors
