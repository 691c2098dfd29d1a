/-
# FusionSensors.Proofs.Attempts -- what a gate remembers of lost events

A gate takes note of an event as soon as it finds it due. Whether the outlet
accepts the event shows only after that, and the note is not taken back: what a
gate remembers is the last attempt of a session, lost or not, and not the last
delivery. Main statement, `attempts_recalled`: so it is in every run of a node,
with any outlet at any time; a gate remembers the last delivery exactly where
the last attempt succeeded; and no loss leaves its memory as it was, so that
what follows is measured from the lost event.

The invariant has two parts, since an event is due only if it is later than the
one remembered: the memory is the newest attempt, and attempts ascend.
-/
import FusionSensors.Proofs.Reachable
import FusionSensors.Proofs.Spacing

namespace FusionSensors.Node

set_option autoImplicit false

/-! ## Acts -/

/-- What may be asked of a node. -/
inductive Act where
  /-- sets the node's event and offers it -/
  | offer (event : Event) (producer : Int)
  | switch (on : Bool) (now : Int)
  | setPeriod (period : Int)
  | keepOutput (producer : Int)
  | flush (now : Int)
  | setWarmup (events : Nat)
  | resolve (provider : Descriptor)
  | describe (descriptor : Descriptor)
  | addDependency (kind : SensorKind)
  | setTrigger (place : Nat)
  deriving DecidableEq, Repr

/-- An event that was found due: its time, and whether the outlet took it. -/
structure Attempt where
  time : Int
  taken : Bool
  deriving DecidableEq, Repr

section Outlet

variable {σ : Type} [Outlet σ]

/-- Whether an outlet takes an event. -/
def takes (outlet : σ) (event : Event) : Bool :=
  Outlet.connected outlet && (Outlet.send outlet event).isOk

/-- Does what is asked; what is refused changes nothing. -/
def act (node : Node) (outlet : σ) : Act → Node × σ
  | .offer event producer => ({ node with event := event }.offer outlet producer).value
  | .switch on now => ((node.switch on now).value, outlet)
  | .setPeriod period =>
    match node.setPeriod period with
    | .ok set => (set.value.1, outlet)
    | .error _ => (node, outlet)
  | .keepOutput producer => (node.keepOutput producer, outlet)
  | .flush now =>
    match node.flush outlet now with
    | .ok marked => (node, marked)
    | .error _ => (node, outlet)
  | .setWarmup events => (node.setWarmup events, outlet)
  | .resolve provider => ((node.resolve provider).value, outlet)
  | .describe descriptor => ({ node with descriptor := descriptor }, outlet)
  | .addDependency kind => (node.addDependency kind, outlet)
  | .setTrigger place => (node.setTrigger place, outlet)

/-- The attempts of a session after an act, newest first, given those before it. -/
def attemptsAfter (node : Node) (outlet : σ) (before : List Attempt) : Act → List Attempt
  | .offer event producer =>
    if { node with event := event }.verdict producer = .due then
      ⟨event.timestamp, takes outlet event⟩ :: before
    else before
  | .switch on _ => if on = node.isEnabled then before else []
  | _ => before

/-! ## One act -/

theorem offer_gate (node : Node) (outlet : σ) (producer : Int) :
    (node.offer outlet producer).value.1.gate = node.gateAfter producer := by
  obtain ⟨stats, framed⟩ := offer_frame node outlet producer
  rw [framed]

/-- An event that is due becomes what the gate remembers, whatever becomes of it. -/
theorem offer_remembered {node : Node} {producer : Int} (due : node.verdict producer = .due)
    (outlet : σ) :
    (node.offer outlet producer).value.1.gate.last = some node.event.timestamp := by
  rw [offer_gate, gateAfter, if_pos due]

theorem offer_forgotten {node : Node} {producer : Int} (undue : node.verdict producer ≠ .due)
    (outlet : σ) : (node.offer outlet producer).value.1.gate = node.gate := by
  rw [offer_gate, gateAfter, if_neg undue]

/-- An event that the outlet does not take is counted as dropped. -/
theorem offer_lost {node : Node} {outlet : σ} {producer : Int} (due : node.verdict producer = .due)
    (lost : takes outlet node.event = false) :
    (node.offer outlet producer).value.1.stats = (node.stats.countOffered producer).countDropped ∧
      (node.offer outlet producer).value.2 = outlet := by
  cases plugged : Outlet.connected outlet with
  | false => simp [offer, due, plugged]
  | true =>
      cases sent : Outlet.send outlet node.event with
      | ok taken => simp [takes, plugged, sent, Except.isOk, Except.toBool] at lost
      | error fault => cases fault <;> simp [offer, due, plugged, sent]

/-- What an act does to the memory of the gate and to the attempts of the session:
a due event is noted in both, a session that begins or ends empties both, and
anything else leaves both alone. -/
theorem act_memory (node : Node) (outlet : σ) (before : List Attempt) (asked : Act) :
    (∃ event producer, asked = .offer event producer ∧
        { node with event := event }.verdict producer = .due ∧
        (node.act outlet asked).1.gate.last = some event.timestamp ∧
        node.attemptsAfter outlet before asked = ⟨event.timestamp, takes outlet event⟩ :: before) ∨
      ((node.act outlet asked).1.gate.last = none ∧ node.attemptsAfter outlet before asked = []) ∨
      ((node.act outlet asked).1.gate.last = node.gate.last ∧
        node.attemptsAfter outlet before asked = before) := by
  cases asked with
  | offer event producer =>
      by_cases due : { node with event := event }.verdict producer = .due
      · exact .inl ⟨event, producer, rfl, due, offer_remembered due outlet, if_pos due⟩
      · exact .inr (.inr ⟨congrArg Gate.last (offer_forgotten due outlet), if_neg due⟩)
  | switch on now =>
      rw [act, attemptsAfter, switch_value]
      by_cases same : on = node.isEnabled
      · rw [if_pos same, if_pos same]
        exact .inr (.inr ⟨rfl, rfl⟩)
      · rw [if_neg same, if_neg same]
        exact .inr (.inl ⟨rfl, rfl⟩)
  | setPeriod period =>
      refine .inr (.inr ⟨?_, rfl⟩)
      rw [act]
      split
      · rename_i set accepted
        rw [(setPeriod_ok accepted).2]
        rfl
      · rfl
  | flush now =>
      refine .inr (.inr ⟨?_, rfl⟩)
      rw [act]
      split <;> rfl
  | keepOutput | setWarmup | resolve | describe | addDependency | setTrigger =>
      exact .inr (.inr ⟨rfl, rfl⟩)

/-! ## Runs -/

/-- A node with the attempts of its session. -/
structure Track where
  node : Node
  /-- newest first -/
  attempts : List Attempt

/-- The gate remembers the newest attempt, and each one was later than those
before it. -/
structure Track.Recalls (track : Track) : Prop where
  last : track.node.gate.last = track.attempts.head?.map Attempt.time
  ascending : track.attempts.Pairwise fun newer older => older.time < newer.time

namespace Track

def step (track : Track) (asked : σ × Act) : Track :=
  ⟨(track.node.act asked.1 asked.2).1, track.node.attemptsAfter asked.1 track.attempts asked.2⟩

/-- A node after some acts, each with the outlet as it is then: others write to
it and read from it, and it may be exchanged or closed. -/
def run (start : Node) (steps : List (σ × Act)) : Track := steps.foldl step ⟨start, []⟩

/-- The time of the last event that the outlet took. -/
def lastTaken (track : Track) : Option Int := (track.attempts.find? Attempt.taken).map Attempt.time

/-- An event that is due is later than all attempts. -/
theorem Recalls.later {track : Track} (recalls : track.Recalls) {event : Event} {producer : Int}
    (due : { track.node with event := event }.verdict producer = .due) :
    ∀ attempt ∈ track.attempts, attempt.time < event.timestamp := by
  have decided : track.node.gate.decide event.timestamp producer = .deliver := decide_of_due due
  obtain ⟨last, ascending⟩ := recalls
  cases known : track.attempts with
  | nil => simp
  | cons newest older =>
      rw [known] at last ascending
      have newer := ((Gate.decide_deliver last).1 decided).1
      rw [List.forall_mem_cons]
      refine ⟨newer, fun attempt listed => ?_⟩
      exact Int.lt_trans ((List.pairwise_cons.1 ascending).1 attempt listed) newer

theorem Recalls.step {track : Track} (recalls : track.Recalls) (asked : σ × Act) :
    (track.step asked).Recalls := by
  obtain ⟨outlet, asked⟩ := asked
  rcases track.node.act_memory outlet track.attempts asked
    with ⟨event, producer, -, due, noted, attempts⟩ | ⟨emptied, attempts⟩ | ⟨kept, attempts⟩
  · constructor
    · rw [Track.step, attempts]
      exact noted
    · rw [Track.step, attempts]
      exact List.pairwise_cons.2 ⟨recalls.later due, recalls.ascending⟩
  · constructor
    · rw [Track.step, attempts]
      exact emptied
    · rw [Track.step, attempts]
      exact .nil
  · constructor
    · rw [Track.step, attempts]
      exact kept.trans recalls.last
    · rw [Track.step, attempts]
      exact recalls.ascending

theorem run_recalls {start : Node} (unused : start.gate.last = none) (steps : List (σ × Act)) :
    (run start steps).Recalls := by
  induction steps using List.reverseRecOn with
  | nil => exact ⟨unused, .nil⟩
  | append_singleton before asked ih =>
      rw [run, List.foldl_append]
      exact ih.step asked

/-- The memory of a gate is the last delivery exactly where the last attempt
succeeded: an older one was earlier. -/
theorem Recalls.lastTaken_iff {track : Track} (recalls : track.Recalls) :
    track.node.gate.last = track.lastTaken ↔ ∀ newest ∈ track.attempts.head?, newest.taken = true := by
  obtain ⟨last, ascending⟩ := recalls
  rw [last, lastTaken]
  generalize track.attempts = attempts at ascending
  cases attempts with
  | nil => simp
  | cons newest older =>
      cases taken : newest.taken with
      | true => simp [taken]
      | false =>
          have earlier : ∀ attempt ∈ older, attempt.time ≠ newest.time := fun attempt listed =>
            Int.ne_of_lt ((List.pairwise_cons.1 ascending).1 attempt listed)
          rw [List.find?_cons_of_neg (by simp [taken])]
          simp only [List.head?_cons, Option.map_some, Option.mem_def, Option.some.injEq,
            forall_eq', taken, Bool.false_eq_true, iff_false]
          intro same
          obtain ⟨attempt, found, time⟩ := Option.map_eq_some_iff.1 same.symm
          exact earlier attempt (List.mem_of_find?_eq_some found) time

end Track

end Outlet

/-! ## Losses -/

/-- An outlet that takes no event: no pipe is attached, or nobody reads it any
more, or it is full. -/
def Shut (outlet : Option Pipe) : Prop :=
  ∀ pipe ∈ outlet, pipe.readEnds = 0 ∨ pipe.capacity ≤ pipe.queue.length

theorem takes_eq_false {outlet : Option Pipe} {event : Event} :
    takes outlet event = false ↔ Shut outlet := by
  cases outlet with
  | none => exact ⟨fun _ _ => nofun, fun _ => rfl⟩
  | some pipe =>
      simp only [takes, Shut, Outlet.connected, Outlet.send, Pipe.write, Option.isSome_some,
        Bool.true_and, Option.mem_def, Option.some.injEq, forall_eq']
      split
      · simp [Except.isOk, Except.toBool, Except.map, *]
      · split <;> simp [Except.isOk, Except.toBool, Except.map, *]

/-- What becomes of an event that is due and that the outlet does not take. -/
structure Loss (node : Node) (outlet : Option Pipe) (event : Event) (producer : Int) : Prop where
  /-- it is counted as dropped, and the outlet is as it was -/
  dropped : (node.act outlet (.offer event producer)).1.stats =
    (node.stats.countOffered producer).countDropped
  unwritten : (node.act outlet (.offer event producer)).2 = outlet
  /-- the gate remembers it as if it had been delivered -/
  remembered : (node.act outlet (.offer event producer)).1.gate.last = some event.timestamp
  /-- and did not before -/
  changed : (node.act outlet (.offer event producer)).1.gate.last ≠ node.gate.last
  /-- whatever follows is measured from the lost event, unless that is too far back -/
  measured : ∀ timestamp other, timestamp - event.timestamp ≤ Gate.maxTime →
    (node.act outlet (.offer event producer)).1.gate.decide timestamp other =
      if timestamp ≤ event.timestamp then .stale
      else if Gate.snapped (timestamp - event.timestamp) other < node.period then .decimated
      else .deliver

/-- An event that is later than what the gate remembers is lost to it as well. -/
theorem loss_of_shut {node : Node} {outlet : Option Pipe} {event : Event} {producer : Int}
    (due : { node with event := event }.verdict producer = .due) (shut : Shut outlet)
    (unknown : node.gate.last ≠ some event.timestamp) : node.Loss outlet event producer := by
  obtain ⟨dropped, unwritten⟩ := offer_lost due (takes_eq_false.2 shut)
  have remembered : (node.act outlet (.offer event producer)).1.gate.last = some event.timestamp :=
    offer_remembered due outlet
  have period : (node.act outlet (.offer event producer)).1.gate.requested = node.period := by
    rw [act, offer_gate, gateAfter, if_pos due]
    rfl
  refine ⟨dropped, unwritten, remembered, remembered ▸ unknown.symm, ?_⟩
  intro timestamp other fits
  rw [Gate.decide_remembers remembered fits, period]

/-- **A gate remembers the last attempt of a session**, in every run of a node. It
is the last delivery exactly where the attempt succeeded, and a loss never
leaves the memory as it was. -/
theorem attempts_recalled (start : Node) (unused : start.gate.last = none)
    (steps : List (Option Pipe × Act)) :
    (Track.run start steps).Recalls ∧
      ((Track.run start steps).node.gate.last = (Track.run start steps).lastTaken ↔
        ∀ newest ∈ (Track.run start steps).attempts.head?, newest.taken = true) ∧
      ∀ (outlet : Option Pipe) (event : Event) (producer : Int),
        { (Track.run start steps).node with event := event }.verdict producer = .due →
          Shut outlet → (Track.run start steps).node.Loss outlet event producer := by
  have recalls := Track.run_recalls unused steps
  refine ⟨recalls, recalls.lastTaken_iff, ?_⟩
  intro outlet event producer due shut
  refine loss_of_shut due shut ?_
  rw [recalls.last]
  intro same
  obtain ⟨newest, listed, time⟩ := Option.map_eq_some_iff.1 same
  have earlier := recalls.later due newest (List.mem_of_head? listed)
  omega

/-- The sensor's event at a time. -/
def gravityEvent (timestamp : Int) : Event :=
  { (Leaf.gravity.node "gravity" 1).event with timestamp := timestamp }

/-- A sensor of period 2000 whose first event takes all the room of its pipe. -/
def fillingRun : List (Option Pipe × Act) :=
  [ (some (.bounded 1), .switch true 0),
    (some (.bounded 1), .setPeriod 2000),
    (some (.bounded 1), .offer (gravityEvent 1000) 1000) ]

/-- The pipe after that. -/
def filledPipe : Pipe := ⟨1, [gravityEvent 1000], 1, 1⟩

/-- The event at 3000 is lost, and the one at 4000 is held back for its sake. -/
theorem filledPipe_recalled :
    (Leaf.gravity.node "gravity" 1).gate.last = none ∧
    (Track.run (Leaf.gravity.node "gravity" 1) fillingRun).Recalls ∧
    { (Track.run (Leaf.gravity.node "gravity" 1) fillingRun).node with
      event := gravityEvent 3000 }.verdict 1000 = .due ∧
    Shut (some filledPipe) ∧
    (Track.run (Leaf.gravity.node "gravity" 1) fillingRun).node.Loss (some filledPipe)
      (gravityEvent 3000) 1000 ∧
    (Track.run (Leaf.gravity.node "gravity" 1)
      (fillingRun ++ [(some filledPipe, .offer (gravityEvent 3000) 1000)])).node.gate.decide 4000 1000 =
        .decimated := by
  have unused : (Leaf.gravity.node "gravity" 1).gate.last = none := rfl
  obtain ⟨recalls, -, losing⟩ := attempts_recalled _ unused fillingRun
  have due : { (Track.run (Leaf.gravity.node "gravity" 1) fillingRun).node with
      event := gravityEvent 3000 }.verdict 1000 = .due := by decide
  have shut : Shut (some filledPipe) := by simp [Shut, filledPipe]
  exact ⟨unused, recalls, due, shut, losing (some filledPipe) (gravityEvent 3000) 1000 due shut, by decide⟩

/-- It is not so that the memory of a gate is the same after a lost event as
before it. -/
theorem filledPipe_misremembers : ¬ ∀ (start : Node) (steps : List (Option Pipe × Act))
    (outlet : Option Pipe) (event : Event) (producer : Int), start.Fresh →
      { (Track.run start steps).node with event := event }.verdict producer = .due →
        Shut outlet →
          ((Track.run start steps).node.act outlet (.offer event producer)).1.gate.last =
            (Track.run start steps).node.gate.last := by
  intro intact
  have same := intact (Leaf.gravity.node "gravity" 1) fillingRun (some filledPipe)
    (gravityEvent 3000) 1000 (Hub.leaf_fresh .gravity "gravity" 1) (by decide)
    (by simp [Shut, filledPipe])
  exact absurd same (by decide)

end FusionSensors.Node
