/-
# FusionSensors.Proofs.Conservation -- no event is lost or counted twice

What was accepted by the pipe is what has been read from it and what is still
queued, in the order of the writes; and the counters of the nodes say exactly
how much of it is theirs (`run_conserves`).

The accepted writes are recorded by running the same code on a pipe that keeps
a journal. An outlet that behaves like another one makes no difference to what
a node does (`takeTurns_alike`), so the journal of the journaling pipe is that
of the pipe itself.
-/
import FusionSensors.Leaf
import FusionSensors.Proofs.Reachable

namespace FusionSensors

set_option autoImplicit false

/-! ## Outlets that behave alike -/

/-- A view of an outlet through which it cannot be told from another one. -/
structure Outlet.Alike {σ τ : Type} [Outlet σ] [Outlet τ] (view : σ → τ) : Prop where
  connected : ∀ outlet, Outlet.connected (view outlet) = Outlet.connected outlet
  send : ∀ outlet event, Outlet.send (view outlet) event = (Outlet.send outlet event).map view

section Alike

variable {σ τ : Type} [Outlet σ] [Outlet τ] {view : σ → τ}

theorem Node.offer_alike (alike : Outlet.Alike view) (node : Node) (outlet : σ) (producer : Int) :
    node.offer (view outlet) producer =
      (fun ended => (ended.1, view ended.2)) <$> node.offer outlet producer := by
  cases reached : node.verdict producer with
  | outside | warmingUp | decimated | stale => simp [offer, reached]
  | due =>
      cases plugged : Outlet.connected outlet with
      | false => simp [offer, reached, alike.connected, plugged]
      | true =>
          cases sent : Outlet.send outlet node.event with
          | ok taken => simp [offer, reached, alike.connected, alike.send, plugged, sent, Except.map]
          | error fault =>
              cases fault <;>
                simp [offer, reached, alike.connected, alike.send, plugged, sent, Except.map]

theorem Node.cycle_alike (alike : Outlet.Alike view) (node : Node) (outlet : σ) (sample : Sample) :
    node.cycle (view outlet) sample =
      (fun ended => (ended.1, view ended.2)) <$> node.cycle outlet sample := by
  simp [cycle, offer_alike alike]

namespace Hub

/-- Turns cannot tell the outlets apart. -/
theorem takeTurns_alike (alike : Outlet.Alike view) (turns : List Turn) (nodes : List Node)
    (outlet : σ) :
    takeTurns turns (nodes, view outlet) =
      (fun state => (state.1, view state.2)) <$> takeTurns turns (nodes, outlet) := by
  induction turns generalizing nodes outlet with
  | nil => simp [takeTurns]
  | cons turn rest ih =>
      cases found : nodes[turn.place]? with
      | none => simp [takeTurns, takeTurn, found, ih]
      | some node => simp [takeTurns, takeTurn, found, Node.cycle_alike alike, ih]

end Hub

end Alike

/-! ## The journal -/

/-- A pipe that keeps what it accepts. -/
structure Journal where
  pipe : Pipe
  accepted : List Event
  deriving DecidableEq, Repr

instance : Outlet Journal where
  connected journal := Outlet.connected journal.pipe
  send journal event :=
    (journal.pipe.write event).map fun pipe => ⟨pipe, journal.accepted ++ [event]⟩

namespace Journal

/-- A journal takes what its pipe takes. -/
theorem send_ok {journal sent : Journal} {event : Event}
    (taken : Outlet.send journal event = .ok sent) :
    journal.pipe.write event = .ok sent.pipe ∧ sent.accepted = journal.accepted ++ [event] := by
  simp only [Outlet.send] at taken
  cases written : journal.pipe.write event with
  | error fault => rw [written] at taken; cases taken
  | ok pipe => rw [written] at taken; cases taken; exact ⟨rfl, rfl⟩

theorem alike_pipe : Outlet.Alike Journal.pipe where
  connected _ := rfl
  send journal event := by
    simp only [Outlet.send]
    cases journal.pipe.write event <;> rfl

/-- A journal goes on wherever it begins. -/
theorem alike_earlier (earlier : List Event) :
    Outlet.Alike fun journal : Journal => (⟨journal.pipe, earlier ++ journal.accepted⟩ : Journal) where
  connected _ := rfl
  send journal event := by
    simp only [Outlet.send]
    cases journal.pipe.write event <;> simp [Except.map]

end Journal

namespace Hub

/-- The events that the pipe accepts during a command, in order. -/
def accepted (hub : Hub) (now : Int) : Command → List Event
  | .deliver source sample =>
    (cascade (maxCascadeDepth + 1) ⟨hub.roster, Journal.mk hub.pipe [], 0⟩
      ⟨source, sample⟩).value.outlet.accepted
  | .flush handle =>
    match hub.node handle >>= fun node => node.flush (Journal.mk hub.pipe []) now with
    | .ok journal => journal.accepted
    | .error _ => []
  | _ => []

theorem accepted_nil {hub : Hub} {now : Int} {command : Command}
    (undelivered : ∀ source sample, command ≠ .deliver source sample)
    (unflushed : ∀ handle, command ≠ .flush handle) : hub.accepted now command = [] := by
  cases command with
  | register | registerProvider | switch | setPeriod | poll => rfl
  | flush handle => exact absurd rfl (unflushed handle)
  | deliver source sample => exact absurd rfl (undelivered source sample)

/-- The events that the pipe accepts during a sequence of commands. -/
def journal (hub : Hub) : List (Int × Command) → List Event
  | [] => []
  | (now, command) :: rest =>
    hub.accepted now command ++ (hub.perform now command).value.1.journal rest

theorem journal_append (hub : Hub) (first second : List (Int × Command)) :
    hub.journal (first ++ second) = hub.journal first ++ (hub.run first).journal second := by
  induction first generalizing hub with
  | nil => rfl
  | cons entry rest ih =>
      rw [List.cons_append, journal, journal, ih, List.append_assoc]
      rfl

end Hub

/-! ## Counters -/

/-- Whether an event reports data of a sensor. -/
def Event.reports (handle : Int) (event : Event) : Bool :=
  event.sensor == handle && event.content == .data

/-- Whether an event marks the end of a flush of a sensor. -/
def Event.marks (handle : Int) (event : Event) : Bool :=
  event.sensor == handle && event.content == .flushComplete

/-- The counters of a sensor agree with a journal: every cycle has offered one
event, every offer is counted under one heading, and the delivered ones are
those of the journal. -/
structure Stats.Agree (stats : Stats) (handle : Int) (journal : List Event) : Prop where
  offered : stats.offered = stats.processed
  shared : stats.delivered + stats.decimated + stats.dropped = stats.processed
  delivered : stats.delivered = journal.countP (·.reports handle)

/-- An event that reports nothing of the sensor makes no difference. -/
theorem Stats.Agree.foreign {stats : Stats} {handle : Int} {journal : List Event}
    (agree : stats.Agree handle journal) {event : Event}
    (unreported : ¬ event.reports handle = true) : stats.Agree handle (journal ++ [event]) := by
  refine ⟨agree.offered, agree.shared, ?_⟩
  rw [List.countP_append, List.countP_singleton, if_neg unreported, agree.delivered, Nat.add_zero]

namespace Node

theorem setPeriod_stats {node : Node} {period : Int} {logged : Logged (Node × Int)}
    (set : node.setPeriod period = .ok logged) : logged.value.1.stats = node.stats := by
  rw [(setPeriod_ok set).2]
  rfl

theorem switch_stats (node : Node) (on : Bool) (now : Int) :
    (node.switch on now).value.stats = node.stats := by
  rw [switch_value]
  split <;> rfl

theorem cycle_counted {σ : Type} [Outlet σ] {node : Node} (forwards : node.forwards = true)
    (outlet : σ) (sample : Sample) :
    (node.cycle outlet sample).value.1.stats.offered = node.stats.offered + 1 ∧
      (node.cycle outlet sample).value.1.stats.delivered +
          (node.cycle outlet sample).value.1.stats.decimated +
          (node.cycle outlet sample).value.1.stats.dropped =
        node.stats.delivered + node.stats.decimated + node.stats.dropped + 1 := by
  rcases cycle_cases forwards outlet sample with ⟨_, _, _, _, ended⟩ | ⟨_, rfl | rfl, ended⟩
  all_goals
    rw [ended]
    refine ⟨rfl, ?_⟩
    simp only [Stats.countOffered, Stats.countDelivered, Stats.countDropped,
      Stats.countDecimated, Stats.countProcessed]
    omega

/-- A cycle counts an event as delivered exactly when the journal grows by it. -/
theorem cycle_journal {node : Node} (forwards : node.forwards = true) (sound : node.Sound)
    (journal : Journal) (sample : Sample) :
    (∃ event, event.sensor = node.handle ∧ event.content = .data ∧
        (node.cycle journal sample).value.2.accepted = journal.accepted ++ [event] ∧
        (node.cycle journal sample).value.1.stats.delivered = node.stats.delivered + 1) ∨
      ((node.cycle journal sample).value.2.accepted = journal.accepted ∧
        (node.cycle journal sample).value.1.stats.delivered = node.stats.delivered) := by
  rcases cycle_cases forwards journal sample with ⟨taken, -, -, sent, ended⟩ | ⟨_, rfl | rfl, ended⟩
  · refine .inl ⟨(node.receive sample).event, sound.sensor, sound.content, ?_, by rw [ended]; rfl⟩
    rw [ended]
    exact (Journal.send_ok sent).2
  all_goals exact .inr (by rw [ended]; exact ⟨rfl, rfl⟩)

/-- The journal grows by a data event of the node or not at all, and the
counters of the node go with it. -/
theorem cycle_agree {node : Node} (forwards : node.forwards = true) (sound : node.Sound)
    {journal : Journal} (agree : node.stats.Agree node.handle journal.accepted) (sample : Sample) :
    (node.cycle journal sample).value.1.stats.Agree node.handle
      (node.cycle journal sample).value.2.accepted := by
  obtain ⟨offered, shared, delivered⟩ := agree
  obtain ⟨offers, shares⟩ := cycle_counted forwards journal sample
  have processed := cycle_processed forwards journal sample
  refine ⟨by omega, by omega, ?_⟩
  rcases cycle_journal forwards sound journal sample
    with ⟨event, sensor, content, grown, counted⟩ | ⟨same, counted⟩
  · have own : event.reports node.handle = true := by simp [Event.reports, sensor, content]
    rw [grown, counted, delivered, List.countP_append, List.countP_singleton, if_pos own]
  · rw [same, counted, delivered]

end Node

namespace Hub

/-! ## Turns on a journaling pipe -/

/-- What holds of the nodes of a sound hub that all forward. -/
structure Ready (nodes : List Node) : Prop where
  forwards : ∀ node ∈ nodes, node.forwards = true
  sound : ∀ node ∈ nodes, node.Sound
  distinct : (nodes.map Node.handle).Nodup

theorem Ready.after {before after : List Node} (ready : Ready before)
    (steps : List.Forall₂ Node.Steps before after) : Ready after := by
  obtain ⟨forwards, sound, distinct⟩ := ready
  refine ⟨?_, ?_, handles_steps steps ▸ distinct⟩
  · intro node listed
    obtain ⟨old, known, steps⟩ := exists_before steps listed
    rw [steps.forwards, forwards old known]
  · intro node listed
    obtain ⟨old, known, steps⟩ := exists_before steps listed
    exact steps.sound (sound old known)

theorem Ready.handle_ne {nodes : List Node} (ready : Ready nodes) {place other : Nat}
    {node second : Node} (found : nodes[place]? = some node) (next : nodes[other]? = some second)
    (apart : place ≠ other) : node.handle ≠ second.handle := by
  intro same
  have bound : place < (nodes.map Node.handle).length := by
    simpa using (List.getElem?_eq_some_iff.1 found).1
  refine apart ((List.getElem?_inj bound ready.distinct).1 ?_)
  rw [List.getElem?_map, List.getElem?_map, found, next, Option.map_some, Option.map_some, same]

theorem takeTurn_steps {σ : Type} [Outlet σ] (turn : Turn) (state : List Node × σ) :
    List.Forall₂ Node.Steps state.1 (takeTurn turn state).value.1 :=
  takeTurns_steps [turn] state

/-- What turns get accepted are data events of their nodes. -/
theorem takeTurns_accepted (turns : List Turn) (state : List Node × Journal) (ready : Ready state.1) :
    ∃ more, (takeTurns turns state).value.2.accepted = state.2.accepted ++ more ∧
      ∀ event ∈ more, event.content = .data ∧ event.sensor ∈ state.1.map Node.handle := by
  induction turns generalizing state with
  | nil => exact ⟨[], (List.append_nil _).symm, by simp⟩
  | cons turn rest ih =>
      obtain ⟨more, accepted, reported⟩ := ih (takeTurn turn state).value
        (ready.after (takeTurn_steps turn state))
      rw [handles_steps (takeTurn_steps turn state)] at reported
      rw [takeTurns, Logged.value_bind, accepted]
      cases found : state.1[turn.place]? with
      | none =>
          rw [takeTurn_none found, Logged.value_pure]
          exact ⟨more, rfl, reported⟩
      | some node =>
          have known := List.mem_of_getElem? found
          rw [takeTurn_some found, Logged.value_bind, Logged.value_pure]
          rcases Node.cycle_journal (ready.forwards node known) (ready.sound node known) state.2
            turn.sample with ⟨event, sensor, content, grown, -⟩ | ⟨same, -⟩
          · refine ⟨event :: more, by rw [grown, List.append_assoc, List.singleton_append], ?_⟩
            intro reporting listed
            rcases List.mem_cons.1 listed with rfl | later
            · exact ⟨content, sensor ▸ List.mem_map_of_mem known⟩
            · exact reported reporting later
          · exact ⟨more, by rw [same], reported⟩

theorem takeTurn_agree (turn : Turn) (state : List Node × Journal) (ready : Ready state.1)
    (agree : ∀ node ∈ state.1, node.stats.Agree node.handle state.2.accepted) :
    ∀ node ∈ (takeTurn turn state).value.1,
      node.stats.Agree node.handle (takeTurn turn state).value.2.accepted := by
  intro after listed
  obtain ⟨place, reached⟩ := List.mem_iff_getElem?.1 listed
  rw [getElem?_takeTurn] at reached
  cases found : state.1[turn.place]? with
  | none =>
      rw [takeTurn_none found] at listed ⊢
      exact agree after listed
  | some node =>
      have known := List.mem_of_getElem? found
      have forwards := ready.forwards node known
      have sound := ready.sound node known
      rw [takeTurn_some found, Logged.value_bind, Logged.value_pure]
      by_cases here : turn.place = place
      · subst here
        rw [if_pos rfl, found, Option.map_some] at reached
        cases reached
        have handle := (Node.Step.ran state.2 turn.sample : node.Step _).handle
        rw [handle]
        exact Node.cycle_agree forwards sound (agree node known) turn.sample
      · rw [if_neg here] at reached
        have other := ready.handle_ne found reached here
        have agreed := agree after (List.mem_of_getElem? reached)
        rcases Node.cycle_journal forwards sound state.2 turn.sample
          with ⟨event, sensor, -, grown, -⟩ | ⟨same, -⟩
        · rw [grown]
          exact agreed.foreign (by simp [Event.reports, sensor, other])
        · rwa [same]

/-- Counters that agree with the journal agree with it after some turns. -/
theorem takeTurns_agree (turns : List Turn) (state : List Node × Journal) (ready : Ready state.1)
    (agree : ∀ node ∈ state.1, node.stats.Agree node.handle state.2.accepted) :
    ∀ node ∈ (takeTurns turns state).value.1,
      node.stats.Agree node.handle (takeTurns turns state).value.2.accepted := by
  induction turns generalizing state with
  | nil => exact agree
  | cons turn rest ih =>
      exact ih _ (ready.after (takeTurn_steps turn state)) (takeTurn_agree turn state ready agree)

/-- The cycles that nodes have run. -/
def processed : List Node → Nat
  | [] => 0
  | node :: rest => node.stats.processed + processed rest

theorem processed_set {nodes : List Node} {place : Nat} {node after : Node}
    (found : nodes[place]? = some node) (more : after.stats.processed = node.stats.processed + 1) :
    processed (nodes.set place after) = processed nodes + 1 := by
  induction nodes generalizing place with
  | nil => cases found
  | cons first rest ih =>
      cases place with
      | zero =>
          cases found
          rw [List.set_cons_zero, processed, processed, more]
          omega
      | succ place =>
          rw [List.set_cons_succ, processed, processed, ih found]
          omega

theorem takeTurns_processed_total {σ : Type} [Outlet σ] (turns : List Turn) (state : List Node × σ)
    (ready : Ready state.1) (within : ∀ turn ∈ turns, turn.place < state.1.length) :
    processed (takeTurns turns state).value.1 = processed state.1 + turns.length := by
  induction turns generalizing state with
  | nil => rfl
  | cons turn rest ih =>
      have inside := within turn List.mem_cons_self
      have found := List.getElem?_eq_getElem inside
      have length : (takeTurn turn state).value.1.length = state.1.length :=
        length_takeTurns [turn] state
      have later := ih (takeTurn turn state).value (ready.after (takeTurn_steps turn state))
        (fun turn listed => length ▸ within turn (List.mem_cons_of_mem _ listed))
      have forwards := ready.forwards _ (List.mem_of_getElem? found)
      rw [takeTurns, Logged.value_bind, later, takeTurn_some found, Logged.value_bind,
        Logged.value_pure, processed_set found (Node.cycle_processed forwards _ _), List.length_cons]
      omega

/-! ## Commands on a journaling pipe -/

/-- A delivery on a journaling pipe is the delivery, and the journal goes on by
what it gets accepted. -/
theorem deliver_journal (hub : Hub) (now : Int) (source : SensorKind) (sample : Sample)
    (forwards : ∀ node ∈ hub.nodes, node.forwards = true) (earlier : List Event) :
    (takeTurns (hub.turns source sample) (hub.nodes, Journal.mk hub.pipe earlier)).value =
      ((hub.deliver source sample).value.1.nodes,
        ⟨(hub.deliver source sample).value.1.pipe,
          earlier ++ hub.accepted now (.deliver source sample)⟩) := by
  have delivered := (hub.deliver_turns source sample forwards).1
  have recorded := (hub.cascade_roster_turns source sample forwards (Journal.mk hub.pipe [])).1
  have piped := congrArg Logged.value
    (takeTurns_alike Journal.alike_pipe (hub.turns source sample) hub.nodes ⟨hub.pipe, []⟩)
  have continued := congrArg Logged.value
    (takeTurns_alike (Journal.alike_earlier earlier) (hub.turns source sample) hub.nodes ⟨hub.pipe, []⟩)
  simp only [Logged.value_map, List.append_nil] at piped continued
  rw [continued, accepted, ← recorded, ← delivered]
  simp only [afterTurns, Delivery.after, Logged.value_bind, Logged.value_pure, roster_nodes, piped]

theorem turns_within (hub : Hub) (source : SensorKind) (sample : Sample) :
    ∀ turn ∈ hub.turns source sample, turn.place < hub.nodes.length := by
  intro turn scheduled
  obtain ⟨node, active⟩ := turn_active scheduled
  rw [← hub.roster_nodes, List.length_map]
  exact (List.getElem?_eq_some_iff.1 active).1

/-- A flush that is answered writes its mark, and one that is refused nothing.
The flush of an enabled node is refused only by the pipe. -/
theorem flush_accepted (hub : Hub) (now handle : Int) :
    (∃ node, hub.node? handle = some node ∧ node.isEnabled = true ∧
        (hub.perform now (.flush handle)).value.2 = .done ∧
        hub.accepted now (.flush handle) = [.flushMark handle now] ∧
        (hub.perform now (.flush handle)).value.1.nodes = hub.nodes ∧
        (hub.perform now (.flush handle)).value.1.pipe.queue =
          hub.pipe.queue ++ [.flushMark handle now]) ∨
      (∃ fault, (hub.perform now (.flush handle)).value = (hub, .refused fault) ∧
        hub.accepted now (.flush handle) = [] ∧
        ∀ node, hub.node? handle = some node → node.isEnabled = true →
          hub.pipe.write (.flushMark handle now) = .error fault) := by
  cases found : hub.node? handle with
  | none =>
      have refused : hub.flush handle now = .error (.unknownHandle handle) := by
        rw [flush, node_of_none found]
        rfl
      refine .inr ⟨_, by rw [perform, refused, Except.map, settle_error rfl], ?_, by simp⟩
      simp only [accepted, node_of_none found]
      rfl
  | some node =>
      have recorded : hub.accepted now (.flush handle) =
          match node.flush (Journal.mk hub.pipe []) now with
          | .ok journal => journal.accepted
          | .error _ => [] := by
        simp only [accepted, node_of_found found]
        rfl
      have flushed : hub.flush handle now =
          (node.flush hub.pipe now).map fun pipe => { hub with pipe := pipe } := by
        rw [flush, node_of_found found]
        show (node.flush hub.pipe now >>= fun pipe => pure _) = _
        cases node.flush hub.pipe now <;> rfl
      obtain ⟨-, same⟩ := node?_some found
      rw [perform, recorded, flushed]
      unfold Node.flush
      cases on : node.isEnabled with
      | false =>
          refine .inr ⟨_, rfl, rfl, ?_⟩
          rintro _ ⟨⟩ enabled
          rw [on] at enabled
          cases enabled
      | true =>
          simp only [if_true, Outlet.send, same]
          cases written : hub.pipe.write (.flushMark handle now) with
          | error fault => exact .inr ⟨fault, rfl, rfl, fun _ _ _ => rfl⟩
          | ok pipe =>
              obtain ⟨-, -, rfl⟩ := Pipe.write_ok written
              exact .inl ⟨node, rfl, on, rfl, rfl, rfl, rfl⟩

/-- A command that writes nothing only takes events from the front of the queue. -/
theorem Effect.queue {hub after : Hub} {now : Int} {command : Command} {reply : Reply}
    (effect : hub.Effect now command after reply)
    (undelivered : ∀ source sample, command ≠ .deliver source sample)
    (unflushed : ∀ handle, command ≠ .flush handle) :
    reply.taken ++ after.pipe.queue = hub.pipe.queue := by
  cases effect with
  | refused | registered | provided | switched | paced => rfl
  | @flushed _ handle => exact absurd rfl (unflushed handle)
  | delivered source sample => exact absurd rfl (undelivered source sample)
  | polled max => exact List.take_append_drop max hub.pipe.queue

/-- What a delivery gets accepted goes to the end of the queue. -/
theorem deliver_queue (hub : Hub) (now : Int) (source : SensorKind) (sample : Sample)
    (forwards : ∀ node ∈ hub.nodes, node.forwards = true) :
    (hub.deliver source sample).value.1.pipe.queue =
      hub.pipe.queue ++ hub.accepted now (.deliver source sample) := by
  have ran := hub.deliver_journal now source sample forwards hub.pipe.queue
  have sends : ∀ (journal : Journal) (event : Event) (sent : Journal),
      journal.pipe.queue = journal.accepted → Outlet.send journal event = .ok sent →
        sent.pipe.queue = sent.accepted := by
    intro journal event sent same taken
    obtain ⟨written, accepted⟩ := Journal.send_ok taken
    obtain ⟨-, -, after⟩ := Pipe.write_ok written
    rw [accepted, after, same]
  have kept := takeTurns_outlet sends (hub.turns source sample)
    (hub.nodes, Journal.mk hub.pipe hub.pipe.queue) rfl
  rwa [ran] at kept

/-- A command takes events from the front of the queue, and those it gets
accepted go to its end. -/
theorem perform_stream (hub : Hub) (now : Int) (command : Command)
    (forwards : ∀ node ∈ hub.nodes, node.forwards = true) :
    (hub.perform now command).value.2.taken ++ (hub.perform now command).value.1.pipe.queue =
      hub.pipe.queue ++ hub.accepted now command := by
  cases command with
  | register | registerProvider | switch | setPeriod | poll =>
      rw [(hub.perform_effect now _).queue (by simp) (by simp), accepted_nil (by simp) (by simp),
        List.append_nil]
  | flush handle =>
      rcases hub.flush_accepted now handle
        with ⟨-, -, -, done, written, -, queue⟩ | ⟨fault, refused, unwritten, -⟩
      · rw [done, written, queue]
        rfl
      · rw [refused, unwritten]
        exact (List.append_nil _).symm
  | deliver source sample => exact hub.deliver_queue now source sample forwards

/-- The handle of a node and its counters. -/
def counters (node : Node) : Int × Stats := (node.handle, node.stats)

/-- No command but a delivery changes a counter. -/
theorem Effect.counters {hub after : Hub} {now : Int} {command : Command} {reply : Reply}
    (effect : hub.Effect now command after reply) (distinct : (hub.nodes.map Node.handle).Nodup)
    (quiet : ∀ source sample, command ≠ .deliver source sample) :
    after.nodes.map counters = hub.nodes.map counters ∨
      ∃ built, command = .register built ∧ hub.usesHandle built.handle = false ∧
        after.nodes.map counters = hub.nodes.map counters ++ [counters built] := by
  cases effect with
  | refused fault => exact .inl rfl
  | @registered built trigger unused independent triggered =>
      refine .inr ⟨built, rfl, unused, ?_⟩
      rw [List.map_append, List.map_singleton]
      cases hub.source? trigger <;> rfl
  | @provided provider first unused =>
      left
      rw [List.map_map]
      apply List.map_congr_left
      intro node listed
      rw [Function.comp_apply]
      split <;> rfl
  | @switched node paced handle on found ready =>
      have known := (node?_some found).1
      have same : Hub.counters (paced.switch on now).value = Hub.counters node := by
        rw [Hub.counters, Node.switch_stats, Node.handle_eq_of_bare (Node.switch_bare _ _ _)]
        rcases ready with ⟨-, rfl⟩ | ⟨-, set, accepted, rfl⟩
        · rfl
        · rw [Node.setPeriod_stats accepted, Node.handle_eq_of_bare (Node.setPeriod_bare accepted)]
          rfl
      exact .inl (put_map distinct known (congrArg Prod.fst same) Hub.counters same)
  | @paced node handle period set found accepted =>
      have known := (node?_some found).1
      have same : Hub.counters set.value.1 = Hub.counters node := by
        rw [Hub.counters, Node.setPeriod_stats accepted,
          Node.handle_eq_of_bare (Node.setPeriod_bare accepted)]
        rfl
      exact .inl (put_map distinct known (congrArg Prod.fst same) Hub.counters same)
  | flushed found enabled written => exact .inl rfl
  | delivered source sample => exact absurd rfl (quiet source sample)
  | polled max => exact .inl rfl

/-! ## The ledger -/

/-- The counters of all sensors agree with a journal, which holds events of
those sensors only. -/
structure Ledger (hub : Hub) (journal : List Event) : Prop where
  agree : ∀ node ∈ hub.nodes, node.stats.Agree node.handle journal
  known : ∀ event ∈ journal, event.sensor ∈ hub.nodes.map Node.handle

theorem handles_counters (nodes : List Node) :
    (nodes.map counters).map Prod.fst = nodes.map Node.handle := by
  rw [List.map_map]
  rfl

theorem agree_of_counters {old node : Node} (alike : counters old = counters node)
    {journal : List Event} (agree : old.stats.Agree old.handle journal) :
    node.stats.Agree node.handle journal := by
  rwa [show old.handle = node.handle from congrArg Prod.fst alike,
    show old.stats = node.stats from congrArg Prod.snd alike] at agree

/-- Only counters matter to a ledger. -/
theorem Ledger.of_counters {hub after : Hub} {journal : List Event} (ledger : hub.Ledger journal)
    (same : after.nodes.map counters = hub.nodes.map counters) : after.Ledger journal := by
  refine ⟨?_, ?_⟩
  · intro node listed
    obtain ⟨old, known, alike⟩ := exists_alike same listed
    exact agree_of_counters alike (ledger.agree old known)
  · rw [← handles_counters, same, handles_counters]
    exact ledger.known

/-- A sensor that was not there has no event in the journal. -/
theorem Ledger.register {hub after : Hub} {journal : List Event} (ledger : hub.Ledger journal)
    {built : Node} (fresh : built.Fresh) (unused : hub.usesHandle built.handle = false)
    (grown : after.nodes.map counters = hub.nodes.map counters ++ [counters built]) :
    after.Ledger journal := by
  have absent : ∀ event ∈ journal, ¬ event.reports built.handle = true := by
    intro event listed reports
    have sensor : event.sensor = built.handle := by
      simp only [Event.reports, Bool.and_eq_true, beq_iff_eq] at reports
      exact reports.1
    apply usesHandle_eq_false.1 unused
    rw [handles_descriptors]
    exact List.mem_append_right _ (sensor ▸ ledger.known event listed)
  refine ⟨?_, ?_⟩
  · intro node listed
    have entry : counters node ∈ hub.nodes.map counters ++ [counters built] :=
      grown ▸ List.mem_map_of_mem listed
    rcases List.mem_append.1 entry with stayed | new
    · obtain ⟨old, known, alike⟩ := List.mem_map.1 stayed
      exact agree_of_counters alike (ledger.agree old known)
    · have alike := List.mem_singleton.1 new
      refine agree_of_counters alike.symm ?_
      rw [fresh.stats]
      exact ⟨rfl, rfl, (List.countP_eq_zero.2 absent).symm⟩
  · rw [← handles_counters, grown, List.map_append, handles_counters]
    exact fun event listed => List.mem_append_left _ (ledger.known event listed)

/-- A flush mark counts nowhere. -/
theorem Ledger.mark {hub : Hub} {journal : List Event} (ledger : hub.Ledger journal)
    {handle : Int} (known : handle ∈ hub.nodes.map Node.handle) (now : Int) :
    hub.Ledger (journal ++ [.flushMark handle now]) := by
  refine ⟨?_, ?_⟩
  · intro node listed
    exact (ledger.agree node listed).foreign (by simp [Event.reports, Event.flushMark])
  · intro event listed
    rcases List.mem_append.1 listed with earlier | new
    · exact ledger.known event earlier
    · rw [List.mem_singleton.1 new]
      exact known

theorem Ledger.deliver {hub : Hub} {journal : List Event} (ledger : hub.Ledger journal)
    (ready : Ready hub.nodes) (now : Int) (source : SensorKind) (sample : Sample) :
    (hub.deliver source sample).value.1.Ledger
      (journal ++ hub.accepted now (.deliver source sample)) := by
  have ran := hub.deliver_journal now source sample ready.forwards journal
  have agree := takeTurns_agree (hub.turns source sample) (hub.nodes, Journal.mk hub.pipe journal)
    ready ledger.agree
  have handles := handles_steps
    (takeTurns_steps (hub.turns source sample) (hub.nodes, Journal.mk hub.pipe journal))
  obtain ⟨more, grown, reported⟩ := takeTurns_accepted (hub.turns source sample)
    (hub.nodes, Journal.mk hub.pipe journal) ready
  rw [ran] at agree handles grown
  dsimp only at grown
  refine ⟨agree, ?_⟩
  rw [handles]
  intro event listed
  rw [grown] at listed
  rcases List.mem_append.1 listed with earlier | new
  · exact ledger.known event earlier
  · exact (reported event new).2

/-- A command that is no delivery leaves what was accounted for. -/
theorem Ledger.quiet {hub after : Hub} {journal : List Event} (ledger : hub.Ledger journal)
    {now : Int} {command : Command} {reply : Reply} (effect : hub.Effect now command after reply)
    (distinct : (hub.nodes.map Node.handle).Nodup)
    (quiet : ∀ source sample, command ≠ .deliver source sample) (fresh : command.Fresh) :
    after.Ledger journal := by
  rcases effect.counters distinct quiet with same | ⟨built, rfl, unused, grown⟩
  · exact ledger.of_counters same
  · exact ledger.register fresh unused grown

theorem Ledger.perform {hub : Hub} {journal : List Event} (ledger : hub.Ledger journal)
    (ready : Ready hub.nodes) (now : Int) {command : Command} (fresh : command.Fresh) :
    (hub.perform now command).value.1.Ledger (journal ++ hub.accepted now command) := by
  cases command with
  | register | registerProvider | switch | setPeriod | poll =>
      rw [accepted_nil (by simp) (by simp), List.append_nil]
      exact ledger.quiet (hub.perform_effect now _) ready.distinct (by simp) fresh
  | flush handle =>
      rcases hub.flush_accepted now handle
        with ⟨node, found, -, -, written, nodes, -⟩ | ⟨fault, refused, unwritten, -⟩
      · obtain ⟨listed, rfl⟩ := node?_some found
        have known : node.handle ∈ hub.nodes.map Node.handle := List.mem_map_of_mem listed
        rw [written]
        exact (ledger.mark known now).of_counters (by rw [nodes])
      · rw [unwritten, refused, List.append_nil]
        exact ledger
  | deliver source sample => exact ledger.deliver ready now source sample

/-! ## Flushes and cycles -/

/-- How often a flush of a sensor was answered. -/
def flushed (hub : Hub) (handle : Int) (commands : List (Int × Command)) : Nat :=
  (commands.zip (hub.replies commands)).countP fun (entry, reply) =>
    entry.2 == .flush handle && reply == .done

/-- The marks that a command gets accepted are the answered flushes. -/
theorem accepted_marks (hub : Hub) (ready : Ready hub.nodes) (now : Int) (command : Command)
    (handle : Int) :
    (hub.accepted now command).countP (·.marks handle) =
      if command == .flush handle && (hub.perform now command).value.2 == .done then 1 else 0 := by
  cases command with
  | register | registerProvider | switch | setPeriod | poll =>
      rw [accepted_nil (by simp) (by simp)]
      simp
  | flush other =>
      rcases hub.flush_accepted now other
        with ⟨-, -, -, done, written, -⟩ | ⟨fault, refused, unwritten, -⟩
      · rw [written, done, List.countP_singleton]
        by_cases same : other = handle
        · simp [same, Event.marks, Event.flushMark]
        · simp [same, Event.marks, Event.flushMark]
      · rw [unwritten, refused]
        simp
  | deliver source sample =>
      have ran := hub.deliver_journal now source sample ready.forwards []
      obtain ⟨more, grown, reported⟩ := takeTurns_accepted (hub.turns source sample)
        (hub.nodes, Journal.mk hub.pipe []) ready
      rw [ran] at grown
      simp only [List.nil_append] at grown
      rw [grown, List.countP_eq_zero.2]
      · simp
      · intro event listed
        simp [Event.marks, (reported event listed).1]

/-- The cycles that an answer tells of. -/
def Reply.ran : Reply → Nat
  | .cycles count => count
  | _ => 0

/-- The cycles that the answers to a sequence of commands tell of. -/
def cycled (hub : Hub) : List (Int × Command) → Nat
  | [] => 0
  | (now, command) :: rest =>
    (hub.perform now command).value.2.ran + (hub.perform now command).value.1.cycled rest

theorem processed_append (first second : List Node) :
    processed (first ++ second) = processed first + processed second := by
  induction first with
  | nil => rw [List.nil_append, processed, Nat.zero_add]
  | cons node rest ih => rw [List.cons_append, processed, processed, ih, Nat.add_assoc]

theorem processed_congr {nodes others : List Node} (same : nodes.map counters = others.map counters) :
    processed nodes = processed others := by
  induction nodes generalizing others with
  | nil =>
      rw [List.map_nil, eq_comm, List.map_eq_nil_iff] at same
      rw [same]
  | cons node rest ih =>
      cases others with
      | nil => cases same
      | cons other others =>
          obtain ⟨first, later⟩ := List.cons.inj same
          have stats : node.stats = other.stats := congrArg Prod.snd first
          rw [processed, processed, stats, ih later]

/-- A command that is no delivery runs no cycle. -/
theorem Effect.processed {hub after : Hub} {now : Int} {command : Command} {reply : Reply}
    (effect : hub.Effect now command after reply) (distinct : (hub.nodes.map Node.handle).Nodup)
    (quiet : ∀ source sample, command ≠ .deliver source sample) (fresh : command.Fresh) :
    Hub.processed after.nodes = Hub.processed hub.nodes + reply.ran := by
  have unrun : reply.ran = 0 := by
    cases effect with
    | delivered source sample => exact absurd rfl (quiet source sample)
    | refused | registered | provided | switched | paced | flushed | polled => rfl
  rw [unrun, Nat.add_zero]
  rcases effect.counters distinct quiet with same | ⟨built, rfl, -, grown⟩
  · exact processed_congr same
  · have unused : built.stats.processed = 0 := by rw [Node.Fresh.stats fresh]
    have more : after.nodes.map Hub.counters = (hub.nodes ++ [built]).map Hub.counters := by
      rw [grown, List.map_append, List.map_singleton]
    rw [processed_congr more, processed_append, Hub.processed, unused]
    rfl

/-- Nodes run the cycles that a command answers, and no others. -/
theorem perform_processed (hub : Hub) (ready : Ready hub.nodes) (now : Int) {command : Command}
    (fresh : command.Fresh) :
    processed (hub.perform now command).value.1.nodes =
      processed hub.nodes + (hub.perform now command).value.2.ran := by
  cases command with
  | register | registerProvider | switch | setPeriod | poll | flush =>
      exact (hub.perform_effect now _).processed ready.distinct (by simp) fresh
  | deliver source sample =>
      have ran := hub.deliver_journal now source sample ready.forwards []
      have total := takeTurns_processed_total (hub.turns source sample)
        (hub.nodes, Journal.mk hub.pipe []) ready (hub.turns_within source sample)
      have count : (hub.deliver source sample).value.2 = (hub.turns source sample).length :=
        (congrArg Prod.snd (hub.deliver_turns source sample ready.forwards).1).symm
      rw [ran, ← count] at total
      exact total

/-! ## Runs -/

/-- What holds of the empty run, and of a run whose first command is performed
by ready nodes where it holds of the rest, holds of every run that ends with
nodes that forward: nodes never go away and never change in that. -/
theorem Sound.run_induct {P : Hub → List (Int × Command) → Prop} (nil : ∀ hub, P hub [])
    (cons : ∀ (hub : Hub) now command rest, Ready hub.nodes → command.Fresh →
      P (hub.perform now command).value.1 rest → P hub ((now, command) :: rest))
    {hub : Hub} (sound : hub.Sound) {commands : List (Int × Command)}
    (fresh : ∀ entry ∈ commands, entry.2.Fresh)
    (forwards : ∀ node ∈ (hub.run commands).nodes, node.forwards = true) :
    P hub commands ∧ ∀ node ∈ hub.nodes, node.forwards = true := by
  induction commands generalizing hub with
  | nil => exact ⟨nil hub, forwards⟩
  | cons entry rest ih =>
      obtain ⟨now, command⟩ := entry
      have effect := hub.perform_effect now command
      have first : command.Fresh := fresh (now, command) List.mem_cons_self
      obtain ⟨others, forwarding⟩ := ih (effect.sound sound first)
        (fun entry within => fresh entry (List.mem_cons_of_mem _ within)) forwards
      obtain ⟨added, moves, -⟩ := effect.moves sound.handles
      have before : ∀ node ∈ hub.nodes, node.forwards = true := by
        intro node listed
        obtain ⟨later, known, steps⟩ := moves.later listed
        rw [← steps.forwards, forwarding later known]
      exact ⟨cons hub now command rest ⟨before, sound.nodes, sound.handles⟩ first others, before⟩

section Runs

variable {hub : Hub} {commands : List (Int × Command)}

theorem run_stream (sound : hub.Sound) (fresh : ∀ entry ∈ commands, entry.2.Fresh)
    (forwards : ∀ node ∈ (hub.run commands).nodes, node.forwards = true) :
    hub.stream commands = hub.pipe.queue ++ hub.journal commands := by
  refine (sound.run_induct (P := fun hub commands =>
    hub.stream commands = hub.pipe.queue ++ hub.journal commands) ?_ ?_ fresh forwards).1
  · intro hub
    exact (List.append_nil _).symm
  · intro hub now command rest ready first others
    rw [stream_cons, others, ← List.append_assoc, hub.perform_stream now command ready.forwards,
      List.append_assoc, journal]

theorem run_ledger (sound : hub.Sound) (fresh : ∀ entry ∈ commands, entry.2.Fresh)
    (forwards : ∀ node ∈ (hub.run commands).nodes, node.forwards = true) {earlier : List Event}
    (ledger : hub.Ledger earlier) :
    (hub.run commands).Ledger (earlier ++ hub.journal commands) := by
  refine (sound.run_induct (P := fun hub commands => ∀ earlier, hub.Ledger earlier →
    (hub.run commands).Ledger (earlier ++ hub.journal commands)) ?_ ?_ fresh forwards).1 earlier ledger
  · intro hub earlier ledger
    rw [journal, List.append_nil]
    exact ledger
  · intro hub now command rest ready first others earlier ledger
    rw [journal, ← List.append_assoc]
    exact others _ (ledger.perform ready now first)

theorem run_marks (sound : hub.Sound) (fresh : ∀ entry ∈ commands, entry.2.Fresh)
    (forwards : ∀ node ∈ (hub.run commands).nodes, node.forwards = true) (handle : Int) :
    (hub.journal commands).countP (·.marks handle) = hub.flushed handle commands := by
  refine (sound.run_induct (P := fun hub commands =>
    (hub.journal commands).countP (·.marks handle) = hub.flushed handle commands)
    ?_ ?_ fresh forwards).1
  · intro hub
    rfl
  · intro hub now command rest ready first others
    rw [journal, List.countP_append, hub.accepted_marks ready now command handle, others, flushed,
      flushed, replies, List.zip_cons_cons, List.countP_cons, Nat.add_comm]

theorem run_processed (sound : hub.Sound) (fresh : ∀ entry ∈ commands, entry.2.Fresh)
    (forwards : ∀ node ∈ (hub.run commands).nodes, node.forwards = true) :
    processed (hub.run commands).nodes = processed hub.nodes + hub.cycled commands := by
  refine (sound.run_induct (P := fun hub commands =>
    processed (hub.run commands).nodes = processed hub.nodes + hub.cycled commands)
    ?_ ?_ fresh forwards).1
  · intro hub
    rfl
  · intro hub now command rest ready first others
    have one := hub.perform_processed ready now first
    show processed ((hub.perform now command).value.1.run rest).nodes = _
    rw [others, one, cycled, Nat.add_assoc]

end Runs

theorem run_capacity (hub : Hub) (commands : List (Int × Command)) :
    (hub.run commands).pipe.capacity = hub.pipe.capacity := by
  induction commands generalizing hub with
  | nil => rfl
  | cons entry rest ih => exact (ih _).trans (hub.perform_effect entry.1 entry.2).capacity

/-- Nothing has happened at a hub yet: no event waits, and no node has counted any. -/
structure Unused (hub : Hub) : Prop where
  queue : hub.pipe.queue = []
  stats : ∀ node ∈ hub.nodes, node.stats = {}

theorem Unused.effect {hub after : Hub} (unused : hub.Unused) {now : Int} {command : Command}
    {reply : Reply} (effect : hub.Effect now command after reply)
    (distinct : (hub.nodes.map Node.handle).Nodup)
    (undelivered : ∀ source sample, command ≠ .deliver source sample)
    (unflushed : ∀ handle, command ≠ .flush handle) (fresh : command.Fresh) : after.Unused := by
  have queue := effect.queue undelivered unflushed
  rw [unused.queue] at queue
  refine ⟨(List.append_eq_nil_iff.1 queue).2, ?_⟩
  intro node listed
  have entry : counters node ∈ after.nodes.map counters := List.mem_map_of_mem listed
  have stayed : ∀ entry ∈ hub.nodes.map counters, entry.2 = {} := by
    intro entry known
    obtain ⟨old, within, rfl⟩ := List.mem_map.1 known
    exact unused.stats old within
  rcases effect.counters distinct undelivered with same | ⟨built, rfl, -, grown⟩
  · exact stayed _ (same ▸ entry)
  · rw [grown] at entry
    rcases List.mem_append.1 entry with old | new
    · exact stayed _ old
    · rw [show node.stats = built.stats from congrArg Prod.snd (List.mem_singleton.1 new)]
      exact Node.Fresh.stats fresh

theorem Made.unused {hub : Hub} (made : hub.Made) : hub.Unused := by
  cases made with
  | empty capacity => exact ⟨rfl, by simp [Hub.new]⟩
  | @configured config logged valid =>
      refine (ofConfig_ok (P := fun hub => hub.Sound ∧ hub.Unused) valid ?_ ?_ ?_).2
      · exact fun positive => ⟨bare_sound _ positive, rfl, by simp [bare, Hub.new]⟩
      · rintro hub provider ⟨sound, unused⟩
        have effect := hub.perform_effect 0 (.registerProvider provider)
        exact ⟨effect.sound sound trivial,
          unused.effect effect sound.handles (by simp) (by simp) trivial⟩
      · rintro hub entry ⟨sound, unused⟩
        have fresh := configured_fresh config entry
        have effect := hub.perform_effect 0 (.register (Hub.configured config entry))
        exact ⟨effect.sound sound fresh,
          unused.effect effect sound.handles (by simp) (by simp) fresh⟩

theorem processed_unused {nodes : List Node} (unused : ∀ node ∈ nodes, node.stats = {}) :
    processed nodes = 0 := by
  induction nodes with
  | nil => rfl
  | cons node rest ih =>
      have others := ih fun later within => unused later (List.mem_cons_of_mem _ within)
      rw [processed, others, unused node List.mem_cons_self]

/-- What a run of a hub conserves. -/
structure Conserves (start : Hub) (commands : List (Int × Command)) : Prop where
  /-- What was read and what is queued is what was accepted, in order. -/
  journaled : start.stream commands = start.journal commands
  room : (start.run commands).pipe.queue.length ≤ start.pipe.capacity
  /-- Every cycle offered one event, and every offer went one way. -/
  offered : ∀ node ∈ (start.run commands).nodes, node.stats.offered = node.stats.processed
  shared : ∀ node ∈ (start.run commands).nodes,
    node.stats.delivered + node.stats.decimated + node.stats.dropped = node.stats.processed
  delivered : ∀ node ∈ (start.run commands).nodes,
    node.stats.delivered = (start.stream commands).countP (·.reports node.handle)
  flushed : ∀ handle,
    (start.stream commands).countP (·.marks handle) = start.flushed handle commands
  cycled : start.cycled commands = processed (start.run commands).nodes

/-- **A run conserves events.** -/
theorem run_conserves {start : Hub} (made : start.Made) {commands : List (Int × Command)}
    (fresh : ∀ entry ∈ commands, entry.2.Fresh)
    (forwards : ∀ node ∈ (start.run commands).nodes, node.forwards = true) :
    start.Conserves commands := by
  have unused := made.unused
  have sound := (Reachable.made made).sound
  have reached := ((Reachable.made made).run fresh).sound
  have journaled : start.stream commands = start.journal commands := by
    rw [run_stream sound fresh forwards, unused.queue, List.nil_append]
  have opened : start.Ledger [] := by
    refine ⟨?_, by simp⟩
    intro node listed
    rw [unused.stats node listed]
    exact ⟨rfl, rfl, rfl⟩
  have ledger := run_ledger sound fresh forwards opened
  rw [List.nil_append, ← journaled] at ledger
  constructor
  case journaled => exact journaled
  case room => exact start.run_capacity commands ▸ reached.pipe.room
  case offered => exact fun node listed => (ledger.agree node listed).offered
  case shared => exact fun node listed => (ledger.agree node listed).shared
  case delivered => exact fun node listed => (ledger.agree node listed).delivered
  case flushed =>
      intro handle
      rw [journaled, run_marks sound fresh forwards handle]
  case cycled => rw [run_processed sound fresh forwards, processed_unused unused.stats,
      Nat.zero_add]

/-- A leaf that is enabled, fed four times into a pipe for two events, and read. -/
def tightRun : List (Int × Command) :=
  [ (0, .registerProvider (.ofKind "fusion" 7 .accelGyroFusion)),
    (0, .register (Leaf.gravity.node "gravity" 1)),
    (0, .switch 1 true),
    (0, .deliver .accelGyroFusion (.blank 0 200000000)),
    (0, .flush 1),
    (0, .deliver .accelGyroFusion (.blank 200000000 200000000)),
    (0, .poll 1),
    (0, .deliver .accelGyroFusion (.blank 200000000 200000000)),
    (0, .deliver .accelGyroFusion (.blank 300000000 100000000)),
    (0, .flush 2) ]

theorem tightRun_conserves : (Hub.new 2).Made ∧ (∀ entry ∈ tightRun, entry.2.Fresh) ∧
    (∀ node ∈ ((Hub.new 2).run tightRun).nodes, node.forwards = true) ∧
    (Hub.new 2).Conserves tightRun ∧
    ((Hub.new 2).run tightRun).nodes.map Node.stats = [⟨4, 4, 1, 1, 2, some 100000000⟩] ∧
    (Hub.new 2).flushed 1 tightRun = 1 := by
  have fresh : ∀ entry ∈ tightRun, entry.2.Fresh := by
    simp [tightRun, Command.Fresh, leaf_fresh]
  have forwards : ∀ node ∈ ((Hub.new 2).run tightRun).nodes, node.forwards = true := by decide
  exact ⟨.empty 2, fresh, forwards, run_conserves (.empty 2) fresh forwards, by decide, by decide⟩

end Hub

end FusionSensors
