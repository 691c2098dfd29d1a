/-
# FusionSensors.Proofs.Stamping -- one delivery, one moment

A node stamps what it makes of a sample with the sample's own time and period,
so everything that follows from a delivered sample carries its stamp. Main
statement, `deliver_stamps`: where all nodes forward, all that a delivery
forwards, keeps and writes belongs to the moment of the sample, and a node
writes one event at most, however many walks reach it.

The last of it rests on the gate, which is `Spent` for a moment once it has let
an event of that moment through: later passes find it stale. A pass that was
dropped earlier, in the warm-up or as decimated, leaves the gate as it was, and
one that is lost at a full pipe does not.
-/
import FusionSensors.Proofs.Conservation

namespace FusionSensors

set_option autoImplicit false

/-- The time of a sample and the period of its producer. -/
def Sample.stamp (sample : Sample) : Int × Int := (sample.timestamp, sample.period)

namespace Node

@[simp] theorem transform_stamp (node : Node) (sample : Sample) :
    (node.transform sample).stamp = sample.stamp := rfl

/-! ## A gate that is spent -/

/-- The gate has let an event of that time through, or a later one. -/
def Spent (node : Node) (time : Int) : Prop :=
  ∃ last, node.gate.last = some last ∧ time ≤ last

/-- A gate that is spent for a sample's time lets nothing of the sample through. -/
theorem Spent.undue {node : Node} {sample : Sample} (spent : node.Spent sample.timestamp) :
    (node.receive sample).verdict sample.period ≠ .due := by
  intro due
  obtain ⟨last, noted, late⟩ := spent
  have decided := decide_of_due due
  have kept : (node.receive sample).gate.last = some last := noted
  rw [Gate.decide, kept] at decided
  simp only [show (node.receive sample).event.timestamp ≤ last from late, if_true] at decided
  cases decided

section Outlets

variable {σ : Type} [Outlet σ]

/-- A gate that lets an event through is spent for its time. -/
theorem spent_of_due {node : Node} {sample : Sample}
    (due : (node.receive sample).verdict sample.period = .due) (outlet : σ) :
    (node.cycle outlet sample).value.1.Spent sample.timestamp := by
  obtain ⟨output, stats, framed⟩ := cycle_frame node outlet sample
  refine ⟨sample.timestamp, ?_, Int.le_refl _⟩
  rw [framed]
  simp only [gateAfter, due, if_true]
  rfl

/-- A gate that is spent stays so. -/
theorem Spent.cycle {node : Node} {sample : Sample} (spent : node.Spent sample.timestamp)
    (outlet : σ) : (node.cycle outlet sample).value.1.Spent sample.timestamp := by
  obtain ⟨output, stats, framed⟩ := cycle_frame node outlet sample
  obtain ⟨last, noted, late⟩ := id spent
  refine ⟨last, ?_, late⟩
  rw [framed]
  simp only [gateAfter, if_neg spent.undue]
  exact noted

/-! ## What a cycle leaves -/

/-- A node was run on samples of a stamp. -/
structure Ran (node after : Node) (stamp : Int × Int) : Prop where
  processed : node.stats.processed < after.stats.processed
  period : after.stats.lastPeriod = some stamp.2
  output : ∃ output, after.output = some output ∧ output.stamp = stamp

theorem cycle_ran {node : Node} (forwards : node.forwards = true) (outlet : σ) (sample : Sample) :
    node.Ran (node.cycle outlet sample).value.1 sample.stamp := by
  refine ⟨?_, ?_, _, cycle_output forwards outlet sample, node.transform_stamp sample⟩
  · rw [cycle_processed forwards]
    exact Nat.lt_succ_self _
  · rcases cycle_cases forwards outlet sample
      with ⟨taken, -, -, -, ended⟩ | ⟨stats, rfl | rfl, ended⟩
    all_goals
      rw [ended]
      rfl

/-- A cycle writes the event of its sample through a gate that is not spent, and
counts it; or it writes nothing. -/
theorem cycle_writes {node : Node} (forwards : node.forwards = true) (journal : Journal)
    (sample : Sample) :
    ((node.receive sample).verdict sample.period = .due ∧
        (node.cycle journal sample).value.2.accepted =
          journal.accepted ++ [(node.receive sample).event] ∧
        (node.cycle journal sample).value.1.stats.delivered = node.stats.delivered + 1) ∨
      ((node.cycle journal sample).value.2.accepted = journal.accepted ∧
        (node.cycle journal sample).value.1.stats.delivered = node.stats.delivered) := by
  rcases cycle_cases forwards journal sample
    with ⟨taken, due, -, sent, ended⟩ | ⟨stats, rfl | rfl, ended⟩
  · rw [ended]
    exact .inl ⟨due, (Journal.send_ok sent).2, rfl⟩
  all_goals
    rw [ended]
    exact .inr ⟨rfl, rfl⟩

end Outlets

end Node

namespace Hub

/-! ## Turns of one stamp -/

theorem forwards_takeTurn {σ : Type} [Outlet σ] {state : List Node × σ}
    (forwards : ∀ node ∈ state.1, node.forwards = true) (turn : Turn) :
    ∀ node ∈ (takeTurn turn state).value.1, node.forwards = true := by
  intro node listed
  have kept := takeTurn_map Node.forwards
    (fun node outlet sample => (Node.forwards_bare _).symm.trans
      ((congrArg Node.forwards (node.cycle_bare outlet sample)).trans (Node.forwards_bare _)))
    turn state
  have drawn : node.forwards ∈ state.1.map Node.forwards := kept ▸ List.mem_map_of_mem listed
  obtain ⟨old, known, same⟩ := List.mem_map.1 drawn
  exact same ▸ forwards old known

/-- After turns of one stamp a node is as it was, or was run on samples of it. -/
theorem takeTurns_stamp {σ : Type} [Outlet σ] {stamp : Int × Int} {turns : List Turn}
    (stamped : ∀ turn ∈ turns, turn.sample.stamp = stamp) (state : List Node × σ) {place : Nat}
    {node : Node} (found : state.1[place]? = some node) (forwards : node.forwards = true) :
    ∃ after, (takeTurns turns state).value.1[place]? = some after ∧
      (after = node ∨ node.Ran after stamp) := by
  induction turns generalizing state node with
  | nil => exact ⟨node, found, .inl rfl⟩
  | cons turn rest ih =>
      have later : ∀ turn ∈ rest, turn.sample.stamp = stamp :=
        fun turn listed => stamped turn (List.mem_cons_of_mem _ listed)
      have step := getElem?_takeTurn turn state place
      rw [found] at step
      by_cases here : turn.place = place
      · rw [if_pos here, Option.map_some] at step
        have forwarding : (node.cycle state.2 turn.sample).value.1.forwards = true := by
          rw [← Node.forwards_bare, Node.cycle_bare, Node.forwards_bare, forwards]
        have first := Node.cycle_ran forwards state.2 turn.sample
        rw [stamped turn List.mem_cons_self] at first
        obtain ⟨after, last, ended⟩ := ih later _ step forwarding
        refine ⟨after, last, .inr ?_⟩
        rcases ended with rfl | again
        · exact first
        · exact ⟨Nat.lt_trans first.processed again.processed, again.period, again.output⟩
      · rw [if_neg here] at step
        exact ih later _ step forwards

/-- What turns of one time write: `writers` are the events with the places of
the nodes that wrote them, in order. -/
structure Writes (time : Int) (before after : List Node × Journal) (writers : List (Nat × Event)) :
    Prop where
  accepted : after.2.accepted = before.2.accepted ++ writers.map Prod.snd
  /-- no place writes twice -/
  once : (writers.map Prod.fst).Nodup
  /-- an event of that time, by a node whose gate was not spent for it -/
  each : ∀ entry ∈ writers, entry.2.timestamp = time ∧ ∃ node, before.1[entry.1]? = some node ∧
    ¬ node.Spent time ∧ entry.2.sensor = node.event.sensor ∧ entry.2.content = node.event.content
  /-- and is spent now -/
  spent : ∀ entry ∈ writers, ∀ later, after.1[entry.1]? = some later → later.Spent time
  nodes : ∀ place later, after.1[place]? = some later → ∃ node, before.1[place]? = some node ∧
    later.bare = node.bare ∧ (node.Spent time → later.Spent time) ∧
    later.stats.delivered = node.stats.delivered + writers.countP (·.1 == place)

namespace Writes

variable {time : Int} {first second third : List Node × Journal}

theorem refl (time : Int) (state : List Node × Journal) : Writes time state state [] := by
  constructor
  case accepted => exact (List.append_nil _).symm
  case once => exact List.nodup_nil
  case each => simp
  case spent => simp
  case nodes => exact fun place later found => ⟨later, found, rfl, id, rfl⟩

/-- A node that wrote has spent its gate, so it is none of those that write later. -/
theorem trans {early late : List (Nat × Event)} (before : Writes time first second early)
    (after : Writes time second third late) : Writes time first third (early ++ late) := by
  constructor
  case accepted => rw [after.accepted, before.accepted, List.map_append, List.append_assoc]
  case once =>
      rw [List.map_append]
      refine before.once.append after.once ?_
      intro place wrote writes
      obtain ⟨entry, listed, rfl⟩ := List.mem_map.1 wrote
      obtain ⟨other, again, same⟩ := List.mem_map.1 writes
      obtain ⟨-, node, found, unspent, -⟩ := after.each other again
      exact unspent (before.spent entry listed node (same ▸ found))
  case each =>
      intro entry listed
      rcases List.mem_append.1 listed with wrote | writes
      · exact before.each entry wrote
      · obtain ⟨timed, node, found, unspent, sensor, content⟩ := after.each entry writes
        obtain ⟨old, known, bare, spends, -⟩ := before.nodes entry.1 node found
        refine ⟨timed, old, known, fun spent => unspent (spends spent), ?_, ?_⟩
        · rw [sensor]
          exact congrArg (fun bare => bare.event.sensor) bare
        · rw [content]
          exact congrArg (fun bare => bare.event.content) bare
  case spent =>
      intro entry listed later found
      rcases List.mem_append.1 listed with wrote | writes
      · obtain ⟨node, known, -, spends, -⟩ := after.nodes entry.1 later found
        exact spends (before.spent entry wrote node known)
      · exact after.spent entry writes later found
  case nodes =>
      intro place last found
      obtain ⟨later, reached, bare, spends, counted⟩ := after.nodes place last found
      obtain ⟨node, known, same, spent, count⟩ := before.nodes place later reached
      refine ⟨node, known, bare.trans same, spends ∘ spent, ?_⟩
      rw [counted, count, List.countP_append, Nat.add_assoc]

end Writes

/-- A turn writes one event at most, and only through a gate that was not spent. -/
theorem takeTurn_writes (turn : Turn) (state : List Node × Journal)
    (forwards : ∀ node ∈ state.1, node.forwards = true) :
    ∃ writers, Writes turn.sample.timestamp state (takeTurn turn state).value writers := by
  cases found : state.1[turn.place]? with
  | none =>
      rw [takeTurn_none found, Logged.value_pure]
      exact ⟨[], .refl _ _⟩
  | some node =>
      have nodes := getElem?_takeTurn turn state
      have outlet : (takeTurn turn state).value.2 = (node.cycle state.2 turn.sample).value.2 := by
        rw [takeTurn_some found, Logged.value_bind, Logged.value_pure]
      have own := nodes turn.place
      rw [if_pos rfl, found, Option.map_some] at own
      have others : ∀ place, turn.place ≠ place →
          (takeTurn turn state).value.1[place]? = state.1[place]? :=
        fun place apart => (nodes place).trans (if_neg apart)
      have bare := node.cycle_bare state.2 turn.sample
      have spends : node.Spent turn.sample.timestamp →
          (node.cycle state.2 turn.sample).value.1.Spent turn.sample.timestamp :=
        fun spent => spent.cycle state.2
      rcases Node.cycle_writes (forwards node (List.mem_of_getElem? found)) state.2 turn.sample
        with ⟨due, taken, counted⟩ | ⟨untaken, counted⟩
      · refine ⟨[(turn.place, (node.receive turn.sample).event)], ?_⟩
        constructor
        case accepted => rw [outlet, taken, List.map_singleton]
        case once => exact List.nodup_singleton _
        case each =>
            intro entry listed
            rw [List.mem_singleton.1 listed]
            exact ⟨rfl, node, found, fun spent => spent.undue due, rfl, rfl⟩
        case spent =>
            intro entry listed later reached
            rw [List.mem_singleton.1 listed] at reached
            cases own.symm.trans reached
            exact Node.spent_of_due due state.2
        case nodes =>
            intro place later reached
            by_cases here : turn.place = place
            · subst here
              cases own.symm.trans reached
              exact ⟨node, found, bare, spends, by simpa using counted⟩
            · rw [others place here] at reached
              exact ⟨later, reached, rfl, id, by simp [here]⟩
      · refine ⟨[], ?_⟩
        constructor
        case accepted => rw [outlet, untaken, List.map_nil, List.append_nil]
        case once => exact List.nodup_nil
        case each => simp
        case spent => simp
        case nodes =>
            intro place later reached
            by_cases here : turn.place = place
            · subst here
              cases own.symm.trans reached
              exact ⟨node, found, bare, spends, counted⟩
            · rw [others place here] at reached
              exact ⟨later, reached, rfl, id, rfl⟩

/-- **Turns of one time write one event for a node at most.** -/
theorem takeTurns_writes {time : Int} {turns : List Turn}
    (timed : ∀ turn ∈ turns, turn.sample.timestamp = time) (state : List Node × Journal)
    (forwards : ∀ node ∈ state.1, node.forwards = true) :
    ∃ writers, Writes time state (takeTurns turns state).value writers := by
  induction turns generalizing state with
  | nil => exact ⟨[], .refl _ _⟩
  | cons turn rest ih =>
      obtain ⟨first, wrote⟩ := takeTurn_writes turn state forwards
      rw [timed turn List.mem_cons_self] at wrote
      obtain ⟨others, writes⟩ := ih (fun turn listed => timed turn (List.mem_cons_of_mem _ listed))
        (takeTurn turn state).value (forwards_takeTurn forwards turn)
      exact ⟨first ++ others, wrote.trans writes⟩

/-! ## What is on its way -/

theorem arrival_stamp (roster : Roster) (sample : Sample) (walk : List Nat) :
    (arrival roster sample walk).sample.stamp = sample.stamp := by
  have fold : ∀ (places : List Nat) (sample : Sample),
      (places.foldl (fun sample place => onward roster place sample) sample).stamp = sample.stamp := by
    intro places
    induction places with
    | nil => exact fun sample => rfl
    | cons place rest ih =>
        intro sample
        rw [List.foldl_cons, ih, onward]
        cases roster[place]? <;> rfl
  exact fold walk.dropLast sample

theorem turns_stamp (hub : Hub) (source : SensorKind) (sample : Sample) :
    ∀ turn ∈ hub.turns source sample, turn.sample.stamp = sample.stamp := by
  intro turn scheduled
  obtain ⟨walk, -, rfl⟩ := List.mem_map.1 scheduled
  exact arrival_stamp hub.roster sample walk

/-- The work of a delivery under way: all that is to be forwarded carries the
stamp, and the nodes still forward. -/
structure UnderWay (stamp : Int × Int) (work : List (Forward × Nat) × Delivery Pipe) : Prop where
  stamped : ∀ entry ∈ work.1, entry.1.sample.stamp = stamp
  forwards : ∀ entry ∈ work.2.roster, entry.1.forwards = true

theorem UnderWay.round {stamp : Int × Int} {work : List (Forward × Nat) × Delivery Pipe}
    (underWay : UnderWay stamp work) : UnderWay stamp (Hub.round work) := by
  obtain ⟨waiting, delivery⟩ := work
  obtain ⟨stamped, forwards⟩ := underWay
  cases waiting with
  | nil => exact ⟨stamped, forwards⟩
  | cons entry rest =>
      obtain ⟨⟨source, sample⟩, depth⟩ := entry
      have own : sample.stamp = stamp := stamped _ List.mem_cons_self
      have others : ∀ entry ∈ rest, entry.1.sample.stamp = stamp :=
        fun entry listed => stamped entry (List.mem_cons_of_mem _ listed)
      rw [Hub.round]
      split
      · exact ⟨others, forwards⟩
      · have fed := congrArg Logged.value
          (feed_turns source sample delivery.roster delivery.outlet forwards)
        simp only [Logged.value_bind, Logged.value_pure] at fed
        rw [fed]
        constructor
        · intro entry listed
          rcases List.mem_append.1 listed with fresh | waiting
          · obtain ⟨output, made, rfl⟩ := List.mem_map.1 fresh
            obtain ⟨place, -, handed⟩ := List.mem_filterMap.1 (List.mem_reverse.1 made)
            obtain ⟨node, -, rfl⟩ := Option.map_eq_some_iff.1 handed
            exact own
          · exact others entry waiting
        · apply forwards_of_outline _ forwards
          rw [outline_zip, takeTurns_bare, outline_eq_zip]

theorem UnderWay.rounds {stamp : Int × Int} {work : List (Forward × Nat) × Delivery Pipe}
    (underWay : UnderWay stamp work) (rounds : Nat) : UnderWay stamp (Hub.round^[rounds] work) := by
  induction rounds generalizing work with
  | zero => exact underWay
  | succ rounds ih => exact ih underWay.round

/-! ## Deliveries -/

/-- What carries the stamp of a delivered sample. -/
structure Stamps (hub : Hub) (source : SensorKind) (sample : Sample) : Prop where
  /-- whatever waits to be forwarded, at any moment and depth -/
  forwarded : ∀ rounds, ∀ entry ∈
    (round^[rounds] ([(⟨source, sample⟩, 0)], ⟨hub.roster, hub.pipe, 0⟩)).1,
      entry.1.sample.stamp = sample.stamp
  /-- every node that is run, and no other one is touched -/
  ran : ∀ (place : Nat) (node : Node), hub.nodes[place]? = some node →
    ∃ after, (hub.deliver source sample).value.1.nodes[place]? = some after ∧
      (after = node ∨ node.Ran after sample.stamp)
  /-- what is written: an event of the sample's time for each of some nodes,
  that counts it as delivered, and for no node a second one -/
  written : ∃ writers : List (Nat × Event),
    (hub.deliver source sample).value.1.pipe.queue = hub.pipe.queue ++ writers.map Prod.snd ∧
    (writers.map Prod.fst).Nodup ∧
    (∀ entry ∈ writers, entry.2.timestamp = sample.timestamp ∧
      ∃ node, hub.nodes[entry.1]? = some node ∧
        entry.2.sensor = node.event.sensor ∧ entry.2.content = node.event.content) ∧
    ∀ (place : Nat) (node after : Node), hub.nodes[place]? = some node →
      (hub.deliver source sample).value.1.nodes[place]? = some after →
        after.stats.delivered = node.stats.delivered + writers.countP (·.1 == place)

/-- **A delivery carries one stamp**, and no node writes two events in it. -/
theorem deliver_stamps (hub : Hub) (source : SensorKind) (sample : Sample)
    (forwards : ∀ node ∈ hub.nodes, node.forwards = true) : hub.Stamps source sample := by
  have stamped := hub.turns_stamp source sample
  have ran := hub.deliver_journal 0 source sample forwards []
  rw [List.nil_append] at ran
  constructor
  case forwarded =>
      have start : UnderWay sample.stamp ([(⟨source, sample⟩, 0)], ⟨hub.roster, hub.pipe, 0⟩) := by
        refine ⟨by simp, ?_⟩
        intro entry listed
        exact forwards entry.1 (hub.roster_nodes ▸ List.mem_map_of_mem listed)
      exact fun rounds => (start.rounds rounds).stamped
  case ran =>
      intro place node found
      have turned := takeTurns_stamp stamped (hub.nodes, Journal.mk hub.pipe []) found
        (forwards node (List.mem_of_getElem? found))
      rwa [ran] at turned
  case written =>
      obtain ⟨writers, writes⟩ := takeTurns_writes
        (fun turn listed => congrArg Prod.fst (stamped turn listed))
        (hub.nodes, Journal.mk hub.pipe []) forwards
      rw [ran] at writes
      refine ⟨writers, ?_, writes.once, ?_, ?_⟩
      · have taken := writes.accepted
        rw [List.nil_append] at taken
        rw [hub.deliver_queue 0 source sample forwards]
        exact congrArg (hub.pipe.queue ++ ·) taken
      · intro entry listed
        obtain ⟨timed, node, found, -, sensor, content⟩ := writes.each entry listed
        exact ⟨timed, node, found, sensor, content⟩
      · intro place node after found reached
        obtain ⟨old, known, -, -, counted⟩ := writes.nodes place after reached
        cases found.symm.trans known
        exact counted

/-- Where the nodes are told apart by their handles, what is written are data
events of different sensors. -/
theorem Stamps.reported {hub : Hub} {source : SensorKind} {sample : Sample}
    (stamps : hub.Stamps source sample) (ready : Ready hub.nodes) :
    ∃ events, (hub.deliver source sample).value.1.pipe.queue = hub.pipe.queue ++ events ∧
      (events.map Event.sensor).Nodup ∧
      ∀ event ∈ events, event.content = .data ∧ event.timestamp = sample.timestamp ∧
        event.sensor ∈ hub.nodes.map Node.handle := by
  obtain ⟨writers, queue, once, each, -⟩ := stamps.written
  refine ⟨writers.map Prod.snd, queue, ?_, ?_⟩
  · rw [List.map_map, List.Nodup, List.pairwise_map]
    rw [List.Nodup, List.pairwise_map] at once
    refine once.imp_of_mem ?_
    intro first second listed other apart
    obtain ⟨-, node, found, sensor, -⟩ := each first listed
    obtain ⟨-, next, known, named, -⟩ := each second other
    have handles := ready.handle_ne found known apart
    rw [Function.comp_apply, Function.comp_apply, sensor, named,
      (ready.sound node (List.mem_of_getElem? found)).sensor,
      (ready.sound next (List.mem_of_getElem? known)).sensor]
    exact handles
  · intro event listed
    obtain ⟨entry, written, rfl⟩ := List.mem_map.1 listed
    obtain ⟨timed, node, found, sensor, content⟩ := each entry written
    have sound := ready.sound node (List.mem_of_getElem? found)
    refine ⟨content.trans sound.content, timed, ?_⟩
    rw [sensor, sound.sensor]
    exact List.mem_map_of_mem (List.mem_of_getElem? found)

/-- The third sensor of the ring is enabled and drops the first event of its
session. -/
def warmingRing : Hub :=
  { ring with nodes := ring.nodes.map fun node : Node =>
      if node.handle == 3 then node.setWarmup 1 else node }.run [(0, .switch 3 true)]

/-- The first pass of the third sensor is dropped and the second one is written,
behind the event of the fourth. -/
theorem warmingRing_stamps : (∀ node ∈ warmingRing.nodes, node.forwards = true) ∧
    warmingRing.Stamps .accelGyroFusion (.blank 10 20000000) ∧
    (warmingRing.deliver .accelGyroFusion (.blank 10 20000000)).value.1.pipe.queue.map
      (fun event => (event.sensor, event.timestamp)) = [(4, 10), (3, 10)] ∧
    (warmingRing.deliver .accelGyroFusion (.blank 10 20000000)).value.1.nodes.map
      (fun node => (node.stats.processed, node.stats.delivered)) = [(1, 0), (1, 0), (2, 1), (1, 1)] :=
  ⟨by decide, deliver_stamps warmingRing _ _ (by decide), by decide, by decide⟩

end Hub

end FusionSensors
