/-
# FusionSensors.Hub.Demand -- who needs a sample

Nodes form a graph: a node triggered by a kind hands its output to the nodes
triggered by its own kind. Two questions are asked of that graph.

* `dependencyPeriod`: how fast must a source run? As fast as the fastest
  enabled node that its samples reach, over any number of steps.
* `roster`: which nodes take part in a delivery? The enabled ones and, level
  by level towards the source, those whose output a participant needs.
-/
import FusionSensors.Hub.Basic

namespace FusionSensors.Hub

set_option autoImplicit false

/-- The deepest level, counted from zero, at which forwarded samples are still consumed. -/
def maxCascadeDepth : Nat := 4

/-! ## Reach of a source -/

/-- The kinds of a list with those of the nodes that they trigger. -/
def spread (nodes : List Node) (kinds : List SensorKind) : List SensorKind :=
  SensorKind.all.filter fun kind =>
    kinds.contains kind ||
      nodes.any fun node => node.kind == kind && node.triggerKind.any kinds.contains

/-- Applies `spread` a number of times. -/
def spreadTimes (nodes : List Node) : Nat → List SensorKind → List SensorKind
  | 0, kinds => kinds
  | times + 1, kinds => spreadTimes nodes times (spread nodes kinds)

/-- The kinds that samples of a source turn into, itself included. There are no
more steps to take than there are kinds. -/
def reach (nodes : List Node) (source : SensorKind) : List SensorKind :=
  spreadTimes nodes SensorKind.all.length [source]

/-- The smaller of two periods, where there are two. -/
def faster : Option Int → Int → Option Int
  | none, period => some period
  | some fastest, period => some (min fastest period)

/-- The shortest period among the enabled nodes that a source reaches. -/
def dependencyPeriod (hub : Hub) (source : SensorKind) : Option Int :=
  let kinds := reach hub.nodes source
  let periods := (hub.nodes.filter fun node =>
    node.triggerKind.any kinds.contains && node.isEnabled && 0 < node.period).map Node.period
  periods.foldl faster none

/-! ## Who takes part -/

/-- Nodes, each with whether it takes part in a delivery. -/
abbrev Roster := List (Node × Bool)

/-- The kinds that participants are triggered by. -/
def wanted (roster : Roster) : List SensorKind :=
  roster.filterMap fun (node, active) => if active then node.triggerKind else none

/-- One pass in order of registration: a node whose kind is wanted joins, and
the kind that triggers it is wanted from then on. -/
def recruit : List SensorKind → Roster → Roster
  | _, [] => []
  | kinds, (node, active) :: rest =>
    if !active && kinds.contains node.kind then
      (node, true) :: recruit (node.triggerKind.toList ++ kinds) rest
    else (node, active) :: recruit kinds rest

/-- A number of passes. -/
def recruitTimes : Nat → Roster → Roster
  | 0, roster => roster
  | passes + 1, roster => recruitTimes passes (recruit (wanted roster) roster)

/-- The nodes of a hub with whether each takes part: enabled nodes, and what
they need through at least as many levels as a cascade has. -/
def roster (hub : Hub) : Roster :=
  recruitTimes (maxCascadeDepth + 1) (hub.nodes.map fun node => (node, node.isEnabled))

end FusionSensors.Hub
