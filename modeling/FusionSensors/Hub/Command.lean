/-
# FusionSensors.Hub.Command -- the hub as a machine

Everything that changes a hub, as data: a command, performed at a reading of
the clock, answers a reply and leaves a hub. A refused command leaves the hub
as it was.
-/
import FusionSensors.Hub.Deliver

namespace FusionSensors.Hub

set_option autoImplicit false

/-- An operation on a hub. -/
inductive Command where
  | register (node : Node)
  | registerProvider (provider : Descriptor)
  | switch (handle : Int) (on : Bool)
  | setPeriod (handle : Int) (period : Int)
  | flush (handle : Int)
  | deliver (source : SensorKind) (sample : Sample)
  | poll (max : Nat)
  deriving DecidableEq, Repr

/-- What a hub answers. -/
inductive Reply where
  | done
  | period (effective : Int)
  | cycles (count : Nat)
  | events (list : List Event)
  | refused (fault : Fault)
  deriving DecidableEq, Repr

/-- The outcome of an operation that may be refused. -/
def settle {α : Type} (hub : Hub) (outcome : Except Fault (Logged α)) (answer : α → Hub × Reply) :
    Logged (Hub × Reply) :=
  match outcome with
  | .ok logged => answer <$> logged
  | .error fault => pure (hub, .refused fault)

/-- Performs a command at a reading of the clock. -/
def perform (hub : Hub) (now : Int) : Command → Logged (Hub × Reply)
  | .register node => hub.settle (hub.register node) (·, .done)
  | .registerProvider provider => hub.settle (hub.registerProvider provider) (·, .done)
  | .switch handle on => hub.settle (hub.switch handle on now) (·, .done)
  | .setPeriod handle period =>
    hub.settle (hub.setPeriod handle period) fun (hub, effective) => (hub, .period effective)
  | .flush handle => hub.settle ((hub.flush handle now).map pure) (·, .done)
  | .deliver source sample => (fun (hub, count) => (hub, .cycles count)) <$> hub.deliver source sample
  | .poll max => pure ((hub.poll max).2, .events (hub.poll max).1)

/-- The hub after a sequence of commands, each with its reading of the clock. -/
def run (hub : Hub) (commands : List (Int × Command)) : Hub :=
  commands.foldl (fun hub (now, command) => (hub.perform now command).value.1) hub

end FusionSensors.Hub
