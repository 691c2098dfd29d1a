/-
# FusionSensors.Proofs.Delivery -- what a delivery amounts to

Main statement, `deliver_runs_walks`: where all nodes forward, a delivery runs
one cycle for each walk of its source over at most `maxCascadeDepth + 1`
nodes, on the sample that the walk makes of the delivered one, and touches
nothing else. It is what a loop over a work list of forwards comes to when it
takes the latest forward first and drops those that are too deep; such a loop
ends, because every round puts only deeper forwards in the place of one.
-/
import FusionSensors.Hub.Command
import FusionSensors.Leaf
import FusionSensors.Proofs.Cascade
import FusionSensors.Proofs.Participation
import Mathlib.Logic.Function.Iterate

namespace FusionSensors

set_option autoImplicit false

/-- A sensor that repeats the first four values of what drives it. -/
def Node.follower (handle : Int) (driver kind : SensorKind) : Node :=
  { Node.blank "follower" handle kind ⟨false, true, false, false⟩ .axis4 with
    dependencies := [driver]
    trigger := some 0 }

namespace Hub

/-! ## The work list -/

/-- One round of the loop: the latest forward with its depth gives way to the
outputs of the nodes that it reaches. -/
def round : List (Forward × Nat) × Delivery Pipe → List (Forward × Nat) × Delivery Pipe
  | ([], delivery) => ([], delivery)
  | ((forward, depth) :: rest, delivery) =>
    if maxCascadeDepth < depth then (rest, delivery)
    else
      let (roster, pipe, cycles, outputs) := (feed forward delivery.roster delivery.outlet).value
      (outputs.reverse.map (·, depth + 1) ++ rest, ⟨roster, pipe, delivery.cycles + cycles⟩)

theorem rounds_outputs {levels depth : Nat}
    (cascades : ∀ (forward : Forward) (rest : List (Forward × Nat)) (delivery : Delivery Pipe),
      ∃ rounds, round^[rounds] ((forward, depth) :: rest, delivery) =
        (rest, (cascade levels delivery forward).value))
    (outputs : List Forward) (rest : List (Forward × Nat)) (delivery : Delivery Pipe) :
    ∃ rounds, round^[rounds] (outputs.map (·, depth) ++ rest, delivery) =
      (rest, (outputs.foldlM (fun now output => cascade levels now output) delivery).value) := by
  induction outputs generalizing delivery with
  | nil => exact ⟨0, rfl⟩
  | cons output outputs more =>
      obtain ⟨first, done⟩ := cascades output (outputs.map (·, depth) ++ rest) delivery
      obtain ⟨others, finished⟩ := more (cascade levels delivery output).value
      refine ⟨others + first, ?_⟩
      rw [Function.iterate_add_apply, List.map_cons, List.cons_append, done, finished,
        List.foldlM_cons, Logged.value_bind]

/-- Some rounds of the loop cascade the latest forward and leave the others. -/
theorem rounds_cascade {levels depth : Nat} (deep : depth + levels = maxCascadeDepth + 1)
    (forward : Forward) (rest : List (Forward × Nat)) (delivery : Delivery Pipe) :
    ∃ rounds, round^[rounds] ((forward, depth) :: rest, delivery) =
      (rest, (cascade levels delivery forward).value) := by
  induction levels generalizing depth forward rest delivery with
  | zero =>
      refine ⟨1, ?_⟩
      rw [Function.iterate_one, round, if_pos (by omega)]
      rfl
  | succ levels ih =>
      have shallow : ¬ maxCascadeDepth < depth := by omega
      have deeper : depth + 1 + levels = maxCascadeDepth + 1 := by omega
      obtain ⟨others, finished⟩ := rounds_outputs (fun forward rest delivery =>
        ih deeper forward rest delivery)
        (feed forward delivery.roster delivery.outlet).value.2.2.2.reverse rest
        ⟨(feed forward delivery.roster delivery.outlet).value.1,
          (feed forward delivery.roster delivery.outlet).value.2.1,
          delivery.cycles + (feed forward delivery.roster delivery.outlet).value.2.2.1⟩
      refine ⟨others + 1, ?_⟩
      rw [Function.iterate_add_apply, Function.iterate_one, round, if_neg shallow]
      exact finished

/-! ## Turns, node by node -/

section Turns

variable {σ : Type} [Outlet σ]

/-- Every turn of a node counts as one more cycle. -/
theorem takeTurns_processed (turns : List Turn) (state : List Node × σ) {place : Nat} {node : Node}
    (found : state.1[place]? = some node) (forwards : node.forwards = true) :
    ∃ after, (takeTurns turns state).value.1[place]? = some after ∧
      after.stats.processed = node.stats.processed + turns.countP (·.place == place) := by
  induction turns generalizing state node with
  | nil => exact ⟨node, found, rfl⟩
  | cons turn rest ih =>
      have step := getElem?_takeTurn turn state place
      rw [found] at step
      by_cases here : turn.place = place
      · rw [if_pos here, Option.map_some] at step
        have forwarding : (node.cycle state.2 turn.sample).value.1.forwards = true := by
          rw [← Node.forwards_bare, Node.cycle_bare, Node.forwards_bare, forwards]
        obtain ⟨after, last, processed⟩ := ih _ step forwarding
        refine ⟨after, last, ?_⟩
        rw [processed, Node.cycle_processed forwards, List.countP_cons_of_pos (by simpa using here)]
        omega
      · rw [if_neg here] at step
        obtain ⟨after, last, processed⟩ := ih _ step forwards
        refine ⟨after, last, ?_⟩
        rw [processed, List.countP_cons_of_neg (by simpa using here)]

end Turns

/-! ## Deliveries -/

/-- The hub after some turns. -/
def afterTurns (hub : Hub) (turns : List Turn) : Logged Hub := do
  let state ← takeTurns turns (hub.nodes, hub.pipe)
  pure { hub with nodes := state.1, pipe := state.2 }

/-- Turns leave a node for each entry of the roster. -/
theorem map_fst_zip_roster (hub : Hub) (turns : List Turn) :
    ((takeTurns turns (hub.nodes, hub.pipe)).value.1.zip (hub.roster.map Prod.snd)).map Prod.fst =
      (takeTurns turns (hub.nodes, hub.pipe)).value.1 := by
  have long : (takeTurns turns (hub.nodes, hub.pipe)).value.1.length =
      (hub.roster.map Prod.snd).length := by
    rw [length_takeTurns, List.length_map, ← hub.roster_nodes, List.length_map]
  exact List.map_fst_zip (Nat.le_of_eq long)

theorem deliver_after {hub : Hub} {source : SensorKind} {sample : Sample} {turns : List Turn}
    (cascaded : (cascade (maxCascadeDepth + 1) ⟨hub.roster, hub.pipe, 0⟩ ⟨source, sample⟩).value =
      (Delivery.after ⟨hub.roster, hub.pipe, 0⟩ turns).value) :
    (hub.deliver source sample).value = ((hub.afterTurns turns).value, turns.length) := by
  rw [deliver, Logged.value_bind, cascaded]
  simp only [Delivery.after, afterTurns, Logged.value_bind, Logged.value_pure, roster_nodes]
  rw [map_fst_zip_roster, Nat.zero_add]

/-- A delivery begins with the participants that the source triggers, and if
there are none it ends there. -/
theorem deliver_hits (hub : Hub) (source : SensorKind) (sample : Sample) :
    ∃ more, (hub.deliver source sample).value =
        ((hub.afterTurns ((hits source hub.roster).map (⟨·, sample⟩) ++ more)).value,
          (hits source hub.roster).length + more.length) ∧
      (hits source hub.roster = [] → more = []) := by
  obtain ⟨more, cascaded, none⟩ := cascade_hits (cascade_some_turns maxCascadeDepth)
    ⟨hub.roster, hub.pipe, 0⟩ ⟨source, sample⟩
  refine ⟨more, ?_, none⟩
  rw [deliver_after cascaded, List.length_append, List.length_map]

/-- A delivery is a sequence of turns, whatever its nodes hand on. -/
theorem deliver_some_turns (hub : Hub) (source : SensorKind) (sample : Sample) :
    ∃ turns, (hub.deliver source sample).value = ((hub.afterTurns turns).value, turns.length) := by
  obtain ⟨turns, cascaded⟩ := cascade_some_turns (maxCascadeDepth + 1)
    ⟨hub.roster, hub.pipe, 0⟩ ⟨source, sample⟩
  exact ⟨turns, deliver_after cascaded⟩

/-- The turns of a delivery. -/
def turns (hub : Hub) (source : SensorKind) (sample : Sample) : List Turn :=
  schedule hub.roster (maxCascadeDepth + 1) source sample

/-- Where all nodes forward, a cascade takes the turns of a delivery, wherever
their events go. -/
theorem cascade_roster_turns (hub : Hub) (source : SensorKind) (sample : Sample)
    (forwards : ∀ node ∈ hub.nodes, node.forwards = true) {σ : Type} [Outlet σ] (outlet : σ) :
    (Delivery.after ⟨hub.roster, outlet, 0⟩ (hub.turns source sample)).Within
      (cascade (maxCascadeDepth + 1) ⟨hub.roster, outlet, 0⟩ ⟨source, sample⟩) := by
  apply cascade_turns
  intro entry within
  exact forwards entry.1 (hub.roster_nodes ▸ List.mem_map_of_mem within)

/-- A delivery is its turns, and writes at least their notes. -/
theorem deliver_turns (hub : Hub) (source : SensorKind) (sample : Sample)
    (forwards : ∀ node ∈ hub.nodes, node.forwards = true) :
    (hub.afterTurns (hub.turns source sample) >>= fun after =>
        pure (after, (hub.turns source sample).length)).Within
      (hub.deliver source sample) := by
  have same : (hub.afterTurns (hub.turns source sample) >>= fun after =>
        pure (after, (hub.turns source sample).length)) =
      Delivery.after ⟨hub.roster, hub.pipe, 0⟩ (hub.turns source sample) >>= fun delivery =>
        pure ({ hub with nodes := delivery.roster.map Prod.fst, pipe := delivery.outlet },
          delivery.cycles) := by
    simp only [afterTurns, Delivery.after, bind_assoc, pure_bind, roster_nodes]
    apply Logged.bind_congr_value
    rw [map_fst_zip_roster, Nat.zero_add]
  rw [same]
  exact (hub.cascade_roster_turns source sample forwards hub.pipe).bind (.refl _)

/-- The last node of a walk takes the turn of the walk. -/
theorem place_arrival (roster : Roster) (sample : Sample) {walk : List Nat} (long : walk ≠ []) :
    walk.getLast? = some (arrival roster sample walk).place := by
  rw [arrival, List.getLastD_eq_getLast?, List.getLast?_eq_some_getLast long, Option.getD_some]

/-- What a delivery of a sample amounts to: `walks` are the walks of the
source down to the deepest level, each listed once, and each is one cycle. -/
structure RunsWalks (hub : Hub) (source : SensorKind) (sample : Sample)
    (walks : List (List Nat)) : Prop where
  nodup : walks.Nodup
  mem : ∀ walk, walk ∈ walks ↔
    Walk hub.roster source walk ∧ walk.length ≤ maxCascadeDepth + 1
  /-- The work list runs empty, and leaves what the delivery answers. -/
  drained : ∃ rounds last,
    round^[rounds] ([(⟨source, sample⟩, 0)], ⟨hub.roster, hub.pipe, 0⟩) = ([], last) ∧
      (hub.deliver source sample).value =
        ({ hub with nodes := last.roster.map Prod.fst, pipe := last.outlet }, last.cycles)
  /-- Nothing happens but one cycle for each walk, of its last node and on the
  sample that the nodes before it made, one after the other. -/
  turned : (hub.deliver source sample).value =
    ((hub.afterTurns (walks.map (arrival hub.roster sample))).value, walks.length)
  processed : ∀ place node, hub.nodes[place]? = some node →
    ∃ after, (hub.deliver source sample).value.1.nodes[place]? = some after ∧
      after.stats.processed = node.stats.processed + walks.countP (·.getLast? == some place)
  untouched : ∀ place, (∀ walk ∈ walks, walk.getLast? ≠ some place) →
    (hub.deliver source sample).value.1.nodes[place]? = hub.nodes[place]?

/-- **A delivery runs one cycle for each walk.** -/
theorem deliver_runs_walks (hub : Hub) (source : SensorKind) (sample : Sample)
    (forwards : ∀ node ∈ hub.nodes, node.forwards = true) :
    ∃ walks, hub.RunsWalks source sample walks := by
  have long : ∀ walk ∈ routes hub.roster (maxCascadeDepth + 1) source, walk ≠ [] :=
    fun walk listed => (mem_routes.1 listed).1.ne_nil
  have turned := (hub.deliver_turns source sample forwards).1.symm
  have nodes : (hub.deliver source sample).value.1.nodes =
      (takeTurns (hub.turns source sample) (hub.nodes, hub.pipe)).value.1 :=
    congrArg (fun answer => answer.1.nodes) turned
  refine ⟨routes hub.roster (maxCascadeDepth + 1) source, ?_⟩
  constructor
  case nodup => exact nodup_routes _ _ _
  case mem => exact fun walk => mem_routes
  case drained =>
      obtain ⟨rounds, finished⟩ := rounds_cascade (Nat.zero_add _) ⟨source, sample⟩ []
        ⟨hub.roster, hub.pipe, 0⟩
      exact ⟨rounds, _, finished, rfl⟩
  case turned =>
      rw [turned, turns, schedule, List.length_map]
      rfl
  case processed =>
      intro place node found
      obtain ⟨after, last, processed⟩ := takeTurns_processed (hub.turns source sample)
        (hub.nodes, hub.pipe) found (forwards node (List.mem_of_getElem? found))
      refine ⟨after, nodes ▸ last, ?_⟩
      rw [processed, turns, schedule, List.countP_map]
      congr 1
      apply List.countP_congr
      intro walk listed
      rw [Function.comp_apply, place_arrival hub.roster sample (long walk listed)]
      simp
  case untouched =>
      intro place idle
      rw [nodes]
      apply takeTurns_untouched
      intro turn taken here
      obtain ⟨walk, listed, rfl⟩ := List.mem_map.1 taken
      exact idle walk listed (here ▸ place_arrival hub.roster sample (long walk listed))

/-- A leaf, and behind it two sensors that drive each other; the last is enabled. -/
def ring : Hub :=
  { Hub.new 8 with nodes :=
      [ Leaf.gameRotationVector.node "orientation" 1,
        .follower 2 .gameRotationVector .rotationVector,
        .follower 3 .rotationVector .geomagneticRotationVector,
        .follower 4 .geomagneticRotationVector .rotationVector ] }.run [(0, .switch 4 true)]

/-- The ring is gone round until the fifth node of the walk. -/
theorem ring_runs_walks : (∀ node ∈ ring.nodes, node.forwards = true) ∧
    (∃ walks, ring.RunsWalks .accelGyroFusion (.blank 10 20000000) walks) ∧
    (ring.deliver .accelGyroFusion (.blank 10 20000000)).value.2 = 5 :=
  ⟨by decide, deliver_runs_walks ring _ _ (by decide), by decide⟩

end Hub

end FusionSensors
