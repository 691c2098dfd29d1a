/-
# FusionSensors.Proofs.Lines -- how far activity travels

A line is a sequence of nodes, by their places, each of which drives the next,
up to an enabled one. Main statement, `roster_lines`: only nodes at the head of
a line take part in a delivery, and all do that are at most
`maxCascadeDepth + 1` steps away from the enabled one, in whatever order the
nodes were registered. For a pass takes activity at least one step along a line
and never off it; that it may take it further, where nodes stand behind one
another, and that passes stop as soon as one changes nothing, makes no
difference to either.

So whatever walk a delivery could take to an enabled node, all nodes of it take
part: a suffix of such a walk is a line (`Walk.needed`).
-/
import FusionSensors.Proofs.Delivery
import FusionSensors.Proofs.Participation
import FusionSensors.Proofs.Walk
import Mathlib.Data.List.Chain
import Mathlib.Tactic.IntervalCases

namespace FusionSensors.Hub

set_option autoImplicit false

/-! ## Lines -/

/-- Nodes each of which drives the next, up to an enabled one. -/
structure Line (nodes : List Node) (line : List Nat) : Prop where
  linked : line.IsChain (Drives nodes)
  enabled : ∃ place node, line.getLast? = some place ∧ nodes[place]? = some node ∧
    node.isEnabled = true

section Nodes

variable {nodes : List Node}

/-- Along a line a pass takes activity one step. -/
theorem Line.joins {place : Nat} {rest : List Nat} (line : Line nodes (place :: rest)) :
    Joins nodes rest.length place := by
  induction rest generalizing place with
  | nil =>
      obtain ⟨last, node, ends, known, on⟩ := line.enabled
      obtain rfl : place = last := by simpa using ends
      exact .enabled known on
  | cons next rest ih =>
      obtain ⟨drives, linked⟩ := List.isChain_cons_cons.1 line.linked
      obtain ⟨last, node, ends, enabled⟩ := line.enabled
      rw [List.getLast?_cons_cons] at ends
      exact .later drives (ih ⟨linked, last, node, ends, enabled⟩)

/-- Activity comes along a line only. -/
theorem Joins.line {passes place : Nat} (joined : Joins nodes passes place) :
    ∃ rest, Line nodes (place :: rest) := by
  induction joined with
  | @enabled passes place node known on => exact ⟨[], .singleton place, place, node, rfl, known, on⟩
  | @later passes place next drives _ ih | @behind passes place next drives _ _ ih =>
      obtain ⟨rest, linked, last, node, ends, enabled⟩ := ih
      refine ⟨next :: rest, List.isChain_cons_cons.2 ⟨drives, linked⟩, last, node, ?_, enabled⟩
      rwa [List.getLast?_cons_cons]

theorem Line.suffix {before rest : List Nat} {place : Nat}
    (line : Line nodes (before ++ place :: rest)) : Line nodes (place :: rest) := by
  obtain ⟨linked, last, node, ends, enabled⟩ := line
  refine ⟨linked.right_of_append, last, node, ?_, enabled⟩
  rwa [List.getLast?_append_of_ne_nil _ (List.cons_ne_nil place rest)] at ends

end Nodes

/-! ## Walks to an enabled node -/

theorem getElem?_everyone {roster : Roster} {place : Nat} {node : Node} {active : Bool} :
    (everyone roster)[place]? = some (node, active) ↔
      (roster.map Prod.fst)[place]? = some node ∧ active = true := by
  rw [everyone, List.getElem?_map, List.getElem?_map]
  cases roster[place]? with
  | none => simp
  | some entry => simp [eq_comm]

section Walks

variable {roster : Roster} {source : SensorKind} {walk : List Nat}

/-- A walk begins at a participant that the source triggers. -/
theorem Walk.head (walks : Walk roster source walk) :
    ∃ place node rest, walk = place :: rest ∧ roster[place]? = some (node, true) ∧
      node.triggerKind = some source := by
  cases walks with
  | here active triggered => exact ⟨_, _, [], rfl, active, triggered⟩
  | onward active triggered _ => exact ⟨_, _, _, rfl, active, triggered⟩

theorem Walk.linked (walks : Walk (everyone roster) source walk) :
    walk.IsChain (Drives (roster.map Prod.fst)) := by
  induction walks with
  | here => exact .singleton _
  | @onward source place node rest active triggered next ih =>
      obtain ⟨second, other, others, rfl, found, driven⟩ := next.head
      have drives : Drives (roster.map Prod.fst) place second :=
        ⟨node, other, (getElem?_everyone.1 active).1, (getElem?_everyone.1 found).1, driven⟩
      exact List.isChain_cons_cons.2 ⟨drives, ih⟩

/-- Every node on a walk to an enabled one is needed by it. -/
theorem Walk.needed (walks : Walk (everyone roster) source walk) {place : Nat} {node : Node}
    (last : walk.getLast? = some place) (found : (roster.map Prod.fst)[place]? = some node)
    (on : node.isEnabled = true) :
    ∀ passed ∈ walk, Joins (roster.map Prod.fst) walk.length passed := by
  intro passed within
  obtain ⟨before, rest, rfl⟩ := List.append_of_mem within
  have line : Line (roster.map Prod.fst) (before ++ passed :: rest) :=
    ⟨walks.linked, place, node, last, found, on⟩
  refine line.suffix.joins.mono ?_
  rw [List.length_append, List.length_cons]
  omega

/-- A walk on which all nodes take part is one that a delivery takes. -/
theorem Walk.taken (walks : Walk (everyone roster) source walk)
    (active : ∀ passed ∈ walk, joined roster passed = true) : Walk roster source walk := by
  have possible := mem_routes.2 ⟨walks, Nat.le_refl walk.length⟩
  have taken : walk ∈ routes roster walk.length source := by
    rw [routes_filter]
    exact List.mem_filter.2 ⟨possible, List.all_eq_true.2 active⟩
  exact (mem_routes.1 taken).1

end Walks

/-! ## Passes that change nothing -/

/-- A number of passes at most: none follows one that changes nothing. -/
def recruitUntil : Nat → Roster → Roster
  | 0, roster => roster
  | passes + 1, roster =>
    let next := recruit (wanted roster) roster
    if next = roster then roster else recruitUntil passes next

theorem recruitTimes_settled {roster : Roster} (settled : recruit (wanted roster) roster = roster)
    (passes : Nat) : recruitTimes passes roster = roster := by
  induction passes with
  | zero => rfl
  | succ passes ih => rw [recruitTimes, settled, ih]

/-- To stop early leaves nobody out. -/
theorem recruitUntil_eq (passes : Nat) (roster : Roster) :
    recruitUntil passes roster = recruitTimes passes roster := by
  induction passes generalizing roster with
  | zero => rfl
  | succ passes ih =>
      by_cases settled : recruit (wanted roster) roster = roster
      · rw [recruitTimes_settled settled, recruitUntil]
        exact if_pos settled
      · rw [recruitTimes, ← ih, recruitUntil]
        exact if_neg settled

/-! ## Who takes part -/

/-- **Only heads of lines take part, and all that are near enough do.** The nodes
of a walk to an enabled node are, so that a delivery takes such a walk. -/
theorem roster_lines (hub : Hub) :
    (∀ place node, hub.roster[place]? = some (node, true) →
        ∃ rest, Line hub.nodes (place :: rest)) ∧
      (∀ place rest, Line hub.nodes (place :: rest) → rest.length ≤ maxCascadeDepth + 1 →
        ∃ node, hub.roster[place]? = some (node, true)) ∧
      (∀ source walk place node, Walk (everyone hub.roster) source walk →
        walk.length ≤ maxCascadeDepth + 1 → walk.getLast? = some place →
          hub.nodes[place]? = some node → node.isEnabled = true → Walk hub.roster source walk) ∧
      hub.roster = recruitUntil (maxCascadeDepth + 1) (enlisted hub.nodes) := by
  have participates : ∀ place, Joins hub.nodes (maxCascadeDepth + 1) place →
      ∃ node, hub.roster[place]? = some (node, true) := by
    intro place joined
    obtain ⟨node, known⟩ := joined.known
    exact ⟨node, roster_active.2 ⟨known, joined⟩⟩
  refine ⟨?_, ?_, ?_, (recruitUntil_eq _ _).symm⟩
  · intro place node active
    exact (roster_active.1 active).2.line
  · intro place rest line near
    exact participates place (line.joins.mono near)
  · intro source walk place node walks short last found on
    refine walks.taken fun passed within => ?_
    have needed := walks.needed last (hub.roster_nodes.symm ▸ found) on passed within
    rw [roster_nodes] at needed
    obtain ⟨other, active⟩ := participates passed (needed.mono short)
    rw [joined, active]
    rfl

/-- Six sensors in a line, registered from the source on, of which the last is
enabled. -/
def sixLine : Hub :=
  { Hub.new 8 with nodes :=
      [ .follower 1 .accelGyroFusion .gameRotationVector,
        .follower 2 .gameRotationVector .rotationVector,
        .follower 3 .rotationVector .geomagneticRotationVector,
        .follower 4 .geomagneticRotationVector .gravity,
        .follower 5 .gravity .linearAcceleration,
        .follower 6 .linearAcceleration .accelerometer ] }.run [(0, .switch 6 true)]

/-- The first of six is just near enough. -/
theorem sixLine_active : Line sixLine.nodes [0, 1, 2, 3, 4, 5] ∧
    [1, 2, 3, 4, 5].length ≤ maxCascadeDepth + 1 ∧
    ∃ node, sixLine.roster[0]? = some (node, true) := by
  have drives : ∀ place < 5, Drives sixLine.nodes place (place + 1) := by
    intro place within
    interval_cases place <;> exact ⟨_, _, rfl, rfl, rfl⟩
  have line : Line sixLine.nodes [0, 1, 2, 3, 4, 5] := by
    refine ⟨?_, 5, _, rfl, rfl, rfl⟩
    simp only [List.isChain_cons_cons, List.isChain_singleton, and_true]
    exact ⟨drives 0 (by decide), drives 1 (by decide), drives 2 (by decide), drives 3 (by decide),
      drives 4 (by decide)⟩
  exact ⟨line, by decide, (roster_lines sixLine).2.1 0 _ line (by decide)⟩

end FusionSensors.Hub
