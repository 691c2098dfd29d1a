/-
# FusionSensors.Hub.Deliver -- a sample on its way through the graph

A delivered sample runs one cycle of every participating node that its source
triggers, in order of registration. Each output is then delivered in its turn
with everything that follows from it, the latest output first, down to
`maxCascadeDepth`; what would go deeper is dropped with a warning.
-/
import FusionSensors.Hub.Demand

namespace FusionSensors.Hub

set_option autoImplicit false

/-- A sample on its way to the nodes that its source triggers. -/
structure Forward where
  source : SensorKind
  sample : Sample
  deriving DecidableEq, Repr

/-- The state of a delivery: the nodes, where their events go, and the cycles
run so far. -/
structure Delivery (σ : Type) where
  roster : Roster
  outlet : σ
  cycles : Nat

section Cascade

variable {σ : Type} [Outlet σ]

/-- Runs one cycle of every participant that the source triggers, and answers
their outputs in order. -/
def feed (forward : Forward) : Roster → σ → Logged (Roster × σ × Nat × List Forward)
  | [], outlet => pure ([], outlet, 0, [])
  | (node, active) :: rest, outlet =>
    if active && node.triggerKind == some forward.source then do
      let (node, outlet) ← node.cycle outlet forward.sample
      let (rest, outlet, cycles, outputs) ← feed forward rest outlet
      let own := node.output.toList.map fun output => ⟨node.kind, output⟩
      pure ((node, active) :: rest, outlet, cycles + 1, own ++ outputs)
    else do
      let (rest, outlet, cycles, outputs) ← feed forward rest outlet
      pure ((node, active) :: rest, outlet, cycles, outputs)

/-- Delivers a sample and what follows from it, over a number of levels. -/
def cascade : Nat → Delivery σ → Forward → Logged (Delivery σ)
  | 0, delivery, forward => do
    Logged.note (.cascadeTooDeep forward.source)
    pure delivery
  | levels + 1, delivery, forward => do
    let (roster, outlet, cycles, outputs) ← feed forward delivery.roster delivery.outlet
    outputs.reverse.foldlM (fun delivery output => cascade levels delivery output)
      ⟨roster, outlet, delivery.cycles + cycles⟩

end Cascade

/-- Delivers a sample of a source and answers how many cycles were run. -/
def deliver (hub : Hub) (source : SensorKind) (sample : Sample) : Logged (Hub × Nat) := do
  let delivery ← cascade (maxCascadeDepth + 1) ⟨hub.roster, hub.pipe, 0⟩ ⟨source, sample⟩
  pure ({ hub with nodes := delivery.roster.map Prod.fst, pipe := delivery.outlet }, delivery.cycles)

end FusionSensors.Hub
