/-
# FusionSensors.Hub.Setup -- a hub from a configuration

The hub of a valid configuration holds the fused provider and one disabled
node for each sensor entry, in order, under the configured vendor and with the
configured warm-up.
-/
import FusionSensors.Config
import FusionSensors.Hub.Command

namespace FusionSensors.Hub

set_option autoImplicit false

/-- The node of a sensor entry as a configuration has it. -/
def configured (config : Config) (entry : LeafEntry) : Node :=
  let node := entry.node.setWarmup config.warmup
  { node with descriptor := { node.descriptor with vendor := config.vendor } }

/-- Registers the nodes of a list, one after the other. -/
def registerAll : List Node → Logged Hub → Except Fault (Logged Hub)
  | [], hub => .ok hub
  | node :: rest, hub => do
    let registered ← hub.value.register node
    registerAll rest (hub >>= fun _ => registered)

/-- Builds the hub of a configuration. -/
def ofConfig (config : Config) : Except Fault (Logged Hub) := do
  config.validate
  let empty := { Hub.new config.pipeCapacity with defaultPeriod := config.defaultPeriod }
  let provided ← empty.registerProvider (config.fusion.descriptor config.vendor)
  let registered ← registerAll (config.sensors.map (configured config)) provided
  return do
    let hub ← registered
    Logged.note (.hubReady hub.nodes.length config.pipeCapacity)
    return hub

end FusionSensors.Hub
