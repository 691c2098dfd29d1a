/-
# FusionSensors.Proofs.Sweep -- a sample that drives every sensor

Where all sensors are enabled and driven by one source, and none drives another
one, a delivery of that source is a sweep: each sensor runs one cycle, in order
of registration. Main statement, `deliver_sweep`: as long as the pipe has room
for an event of each, it takes the event of each sensor for which it is due, in
that order, and what is seen of a sensor afterwards does not depend on the
others.
-/
import FusionSensors.Proofs.Origin

namespace FusionSensors

set_option autoImplicit false

namespace Node

/-- What a node writes of a sample if it is not refused: its event, if that is due. -/
def due (node : Node) (sample : Sample) : List Event :=
  if (node.receive sample).verdict sample.period = .due then [(node.receive sample).event] else []

theorem due_length (node : Node) (sample : Sample) : (node.due sample).length ≤ 1 := by
  rw [due]
  split
  · exact Nat.le_refl _
  · exact Nat.zero_le _

/-- A pipe with a reader and room takes what is due. -/
theorem cycle_due (node : Node) (sample : Sample) {pipe : Pipe} (reading : pipe.readEnds ≠ 0)
    (room : pipe.queue.length < pipe.capacity) :
    (node.cycle pipe sample).value.2 = { pipe with queue := pipe.queue ++ node.due sample } := by
  by_cases due : (node.receive sample).verdict sample.period = .due
  · have written : pipe.write (node.receive sample).event =
        .ok { pipe with queue := pipe.queue ++ [(node.receive sample).event] } := by
      rw [Pipe.write, if_neg reading, if_neg (Nat.not_le.2 room)]
    rw [Node.due, if_pos due]
    exact offer_sent due rfl written
  · rw [Node.due, if_neg due, List.append_nil]
    exact cycle_kept due pipe

end Node

namespace Hub

/-! ## Everybody takes part -/

theorem recruit_everybody (kinds : List SensorKind) (nodes : List Node) :
    recruit kinds (nodes.map (·, true)) = nodes.map (·, true) := by
  induction nodes with
  | nil => rfl
  | cons node rest ih => simp [recruit, ih]

theorem recruitTimes_everybody (passes : Nat) (nodes : List Node) :
    recruitTimes passes (nodes.map (·, true)) = nodes.map (·, true) := by
  induction passes with
  | zero => rfl
  | succ passes ih => rw [recruitTimes, recruit_everybody, ih]

/-- Where all nodes are enabled, all take part. -/
theorem roster_enabled {hub : Hub} (enabled : ∀ node ∈ hub.nodes, node.isEnabled = true) :
    hub.roster = hub.nodes.map (·, true) := by
  have flags : (hub.nodes.map fun node => (node, node.isEnabled)) = hub.nodes.map (·, true) :=
    List.map_congr_left fun node listed => by rw [enabled node listed]
  rw [roster, flags, recruitTimes_everybody]

/-! ## One cycle each -/

/-- One turn each, in order: every node writes what is due of it, and moves on by itself. -/
theorem takeTurns_sweep {source : SensorKind} (sample : Sample) {nodes : List Node}
    (driven : ∀ node ∈ nodes, node.triggerKind = some source) {pipe : Pipe}
    (reading : pipe.readEnds ≠ 0) (room : pipe.queue.length + nodes.length ≤ pipe.capacity) :
    let after := (takeTurns ((hits source (nodes.map (·, true))).map (⟨·, sample⟩)) (nodes, pipe)).value
    after.1.map Node.seen = nodes.map (fun node => (node.offered sample).seen) ∧
      after.2 = { pipe with queue := pipe.queue ++ nodes.flatMap (·.due sample) } := by
  induction nodes generalizing pipe with
  | nil => exact ⟨rfl, by rw [List.flatMap_nil, List.append_nil]; rfl⟩
  | cons node rest ih =>
      obtain ⟨first, others⟩ := List.forall_mem_cons.1 driven
      have turns : (hits source ((node :: rest).map (·, true))).map (⟨·, sample⟩ : Nat → Turn) =
          ⟨0, sample⟩ :: ((hits source (rest.map (·, true))).map (⟨·, sample⟩)).map
            fun turn : Turn => { turn with place := turn.place + 1 } := by
        simp [hits, first]
      have own := node.cycle_due sample reading (by simp only [List.length_cons] at room; omega)
      have short := node.due_length sample
      have later := @ih others (node.cycle pipe sample).value.2 (by rw [own]; exact reading)
        (by rw [own]; simp only [List.length_append, List.length_cons] at room ⊢; omega)
      simp only [turns, takeTurns, takeTurn, List.getElem?_cons_zero, Logged.value_bind,
        Logged.value_pure, List.set_cons_zero, takeTurns_cons] at later ⊢
      obtain ⟨seen, queue⟩ := later
      refine ⟨?_, ?_⟩
      · rw [List.map_cons, List.map_cons, seen, Node.cycle_seen]
      · rw [queue, own, List.flatMap_cons, ← List.append_assoc]

/-- **A delivery that drives every sensor is a sweep.** -/
theorem deliver_sweep {hub : Hub} {source : SensorKind} (undriven : hub.Undriven)
    (forwards : ∀ node ∈ hub.nodes, node.forwards = true)
    (enabled : ∀ node ∈ hub.nodes, node.isEnabled = true)
    (driven : ∀ node ∈ hub.nodes, node.triggerKind = some source)
    (reading : hub.pipe.readEnds ≠ 0)
    (room : hub.pipe.queue.length + hub.nodes.length ≤ hub.pipe.capacity) (sample : Sample) :
    let after := (hub.deliver source sample).value.1
    after.nodes.map Node.seen = hub.nodes.map (fun node => (node.offered sample).seen) ∧
      after.pipe = { hub.pipe with
        queue := hub.pipe.queue ++ hub.nodes.flatMap (·.due sample) } := by
  have delivered := congrArg Prod.fst (hub.deliver_turns source sample forwards).1
  have turns := turns_undriven undriven source sample
  rw [roster_enabled enabled] at turns
  rw [turns] at delivered
  have swept := takeTurns_sweep sample driven reading room
  intro after
  rw [show after = _ from delivered.symm]
  exact swept

end Hub

end FusionSensors
