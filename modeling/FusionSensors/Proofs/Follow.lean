/-
# FusionSensors.Proofs.Follow -- the events of one node

What a node writes is settled by the samples of its turns and by what is `seen`
of it: its nature, gate and session. `Node.follow` computes both what it writes
and what is seen of it afterwards, without an outlet and without other nodes;
as long as no write finds the pipe full, the turns of a delivery write just
that (`takeTurns_follow`).
-/
import FusionSensors.Proofs.Conservation

namespace FusionSensors

set_option autoImplicit false

/-! ## Following a node -/

namespace Node

/-- What the events of a node depend on. -/
def seen (node : Node) : Node × Gate × Option Session := (node.bare, node.gate, node.session)

theorem seen_eq {node other : Node} : node.seen = other.seen ↔
    node.bare = other.bare ∧ node.gate = other.gate ∧ node.session = other.session := by
  simp only [seen, Prod.mk.injEq]

theorem isEnabled_congr {node other : Node} (same : node.seen = other.seen) :
    node.isEnabled = other.isEnabled := by
  rw [isEnabled, isEnabled, (seen_eq.1 same).2.2]

theorem paced_congr {node other : Node} (same : node.seen = other.seen) (period : Int) :
    (node.paced period).seen = (other.paced period).seen := by
  obtain ⟨bare, gate, session⟩ := seen_eq.1 same
  refine seen_eq.2 ⟨bare, ?_, session⟩
  rw [paced, paced, descriptor_eq_of_bare bare, gate]

theorem switch_congr {node other : Node} (same : node.seen = other.seen) (on : Bool) (now : Int) :
    (node.switch on now).value.seen = (other.switch on now).value.seen := by
  obtain ⟨bare, gate, session⟩ := seen_eq.1 same
  have warmup : node.warmup = other.warmup := congrArg (fun bare => bare.warmup) bare
  rw [switch_value, switch_value, isEnabled_congr same]
  split
  · exact same
  · refine seen_eq.2 ⟨bare, ?_, ?_⟩
    · rw [gate]
    · rw [warmup]

/-- The node after a sample, but for what is not seen of it. -/
def offered (node : Node) (sample : Sample) : Node :=
  { node.receive sample with
    gate := (node.receive sample).gateAfter sample.period
    session := (node.receive sample).sessionAfter sample.period }

/-- What is seen of a node after some samples, and the events it writes if none is refused. -/
def follow (node : Node) : List Sample → (Node × Gate × Option Session) × List Event
  | [] => (node.seen, [])
  | sample :: rest =>
    let own := if (node.receive sample).verdict sample.period = .due then
      [(node.receive sample).event] else []
    (((node.offered sample).follow rest).1, own ++ ((node.offered sample).follow rest).2)

theorem receive_event_congr {node other : Node} (same : node.bare = other.bare) (sample : Sample) :
    (node.receive sample).event = (other.receive sample).event := by
  rw [← receive_bare_event node, same, receive_bare_event]

theorem verdict_congr {node other : Node} (same : node.seen = other.seen) (sample : Sample) :
    (node.receive sample).verdict sample.period = (other.receive sample).verdict sample.period := by
  obtain ⟨bare, gate, session⟩ := seen_eq.1 same
  have event := receive_event_congr bare sample
  have gates : (node.receive sample).gate = (other.receive sample).gate := gate
  have sessions : (node.receive sample).session = (other.receive sample).session := session
  rw [verdict, verdict, event, gates, sessions]

theorem offered_seen (node : Node) (sample : Sample) :
    (node.offered sample).seen = (node.bare, (node.receive sample).gateAfter sample.period,
      (node.receive sample).sessionAfter sample.period) := by
  have bare : (node.offered sample).bare = node.bare :=
    bare_eq_of_receive sample ⟨_, _, node.output, node.stats, rfl⟩
  rw [seen, bare]
  rfl

theorem offered_congr {node other : Node} (same : node.seen = other.seen) (sample : Sample) :
    (node.offered sample).seen = (other.offered sample).seen := by
  obtain ⟨bare, gate, session⟩ := seen_eq.1 same
  have event := receive_event_congr bare sample
  have verdict := verdict_congr same sample
  have gates : (node.receive sample).gate = (other.receive sample).gate := gate
  have sessions : (node.receive sample).session = (other.receive sample).session := session
  rw [offered_seen, offered_seen, bare, gateAfter, gateAfter, sessionAfter, sessionAfter, verdict,
    gates, event, warmedUp, warmedUp, sessions]

/-- What is seen of a node is all that its events depend on. -/
theorem follow_congr {node other : Node} (same : node.seen = other.seen) (samples : List Sample) :
    node.follow samples = other.follow samples := by
  induction samples generalizing node other with
  | nil => rw [follow, follow, same]
  | cons sample rest ih =>
      have event := receive_event_congr (seen_eq.1 same).1 sample
      rw [follow, follow, verdict_congr same, event, ih (offered_congr same sample)]

/-- An event is due in a session only, and not before it began. -/
theorem session_of_due {node : Node} {producer : Int} (due : node.verdict producer = .due) :
    ∃ session, node.session = some session ∧ session.since ≤ node.event.timestamp := by
  unfold verdict at due
  split at due
  · cases due
  · rename_i session begun
    split at due
    · cases due
    · rename_i timely
      exact ⟨session, begun, Int.not_lt.1 timely⟩

/-- A node that is not enabled writes nothing. -/
theorem follow_disabled {node : Node} (off : node.session = none) (samples : List Sample) :
    node.follow samples = (node.seen, []) := by
  induction samples generalizing node with
  | nil => rfl
  | cons sample rest ih =>
      have outside : (node.receive sample).verdict sample.period = .outside := by
        rw [verdict, show (node.receive sample).session = none from off]
      have stays : (node.offered sample).seen = node.seen := by
        rw [offered_seen, gateAfter, sessionAfter, outside, if_neg (by decide), if_neg (by decide)]
        rfl
      have still : (node.offered sample).session = none := by
        rw [show (node.offered sample).session = node.session from
          congrArg (fun seen => seen.2.2) stays, off]
      rw [follow, ih still, outside, if_neg (by decide), stays]
      rfl

theorem cycle_seen {σ : Type} [Outlet σ] (node : Node) (outlet : σ) (sample : Sample) :
    (node.cycle outlet sample).value.1.seen = (node.offered sample).seen := by
  obtain ⟨output, stats, framed⟩ := cycle_frame node outlet sample
  rw [framed, offered_seen, ← cycle_bare node outlet sample, framed]
  rfl

/-- An event that is not due goes nowhere. -/
theorem cycle_kept {σ : Type} [Outlet σ] {node : Node} {sample : Sample}
    (undue : (node.receive sample).verdict sample.period ≠ .due) (outlet : σ) :
    (node.cycle outlet sample).value.2 = outlet :=
  offer_kept undue outlet

/-- An event that is due is accepted, unless the pipe is closed or a note says
that it was full. -/
theorem cycle_written {node : Node} {sample : Sample}
    (due : (node.receive sample).verdict sample.period = .due) {journal : Journal}
    (reading : journal.pipe.readEnds ≠ 0)
    (kept : ∀ name, .eventLost name ∉ (node.cycle journal sample).notes) :
    (node.cycle journal sample).value.2.accepted =
      journal.accepted ++ [(node.receive sample).event] := by
  have offers : (node.cycle journal sample).notes =
      ((node.receive sample).offer journal sample.period).notes := by
    simp [cycle]
  rw [offers] at kept
  rw [cycle_value]
  cases written : journal.pipe.write (node.receive sample).event with
  | ok pipe => simp [offer, due, Outlet.connected, Outlet.send, written, Except.map]
  | error fault =>
      obtain rfl := Pipe.write_error reading written
      refine absurd ?_ (kept (node.receive sample).descriptor.name)
      simp [offer, due, Outlet.connected, Outlet.send, written, Except.map, Logged.note]

end Node

namespace Hub

/-! ## Turns of one node -/

/-- The samples of the turns of a place. -/
def samplesAt (place : Nat) (turns : List Turn) : List Sample :=
  (turns.filter (·.place == place)).map Turn.sample

theorem takeTurn_reading (turn : Turn) (state : List Node × Journal)
    (reading : state.2.pipe.readEnds ≠ 0) :
    (takeTurn turn state).value.2.pipe.readEnds ≠ 0 := by
  have sends : ∀ (journal : Journal) (event : Event) (sent : Journal),
      journal.pipe.readEnds ≠ 0 → Outlet.send journal event = .ok sent → sent.pipe.readEnds ≠ 0 := by
    intro journal event sent reading taken
    obtain ⟨-, -, after⟩ := Pipe.write_ok (Journal.send_ok taken).1
    rw [after]
    exact reading
  exact takeTurns_outlet sends [turn] state reading

/-- A turn of another node writes no event of this one. -/
theorem takeTurn_foreign {turn : Turn} {state : List Node × Journal} (ready : Ready state.1)
    {place : Nat} {node : Node} (found : state.1[place]? = some node) (away : turn.place ≠ place) :
    (takeTurn turn state).value.2.accepted.filter (·.sensor == node.handle) =
      state.2.accepted.filter (·.sensor == node.handle) := by
  cases listed : state.1[turn.place]? with
  | none => rw [takeTurn_none listed, Logged.value_pure]
  | some other =>
      have known := List.mem_of_getElem? listed
      have apart := ready.handle_ne listed found away
      rw [takeTurn_some listed, Logged.value_bind, Logged.value_pure]
      rcases Node.cycle_journal (ready.forwards other known) (ready.sound other known) state.2
        turn.sample with ⟨event, sensor, -, grown, -⟩ | ⟨same, -⟩
      · rw [grown, List.filter_append, List.filter_cons_of_neg (by simp [sensor, apart]),
          List.filter_nil, List.append_nil]
      · rw [same]

/-- A turn of a node writes its event if that is due. -/
theorem takeTurn_own {turn : Turn} {state : List Node × Journal} (ready : Ready state.1)
    (reading : state.2.pipe.readEnds ≠ 0)
    (kept : ∀ name, .eventLost name ∉ (takeTurn turn state).notes)
    {node : Node} (found : state.1[turn.place]? = some node) :
    (takeTurn turn state).value.2.accepted.filter (·.sensor == node.handle) =
      state.2.accepted.filter (·.sensor == node.handle) ++
        if (node.receive turn.sample).verdict turn.sample.period = .due then
          [(node.receive turn.sample).event] else [] := by
  have sensor : (node.receive turn.sample).event.sensor = node.handle :=
    (ready.sound node (List.mem_of_getElem? found)).sensor
  rw [takeTurn_some found] at kept ⊢
  rw [Logged.value_bind, Logged.value_pure]
  by_cases due : (node.receive turn.sample).verdict turn.sample.period = .due
  · have accepts : ∀ name, .eventLost name ∉ (node.cycle state.2 turn.sample).notes := by
      intro name lost
      exact kept name (by simpa using lost)
    rw [Node.cycle_written due reading accepts, if_pos due, List.filter_append,
      List.filter_cons_of_pos (by simp [sensor]), List.filter_nil]
  · rw [Node.cycle_kept due, if_neg due, List.append_nil]

/-- The samples of some turns, the first of them apart. -/
theorem samplesAt_cons (place : Nat) (turn : Turn) (rest : List Turn) :
    samplesAt place (turn :: rest) =
      if turn.place = place then turn.sample :: samplesAt place rest else samplesAt place rest := by
  by_cases here : turn.place = place <;> simp [samplesAt, here]

/-- **The events of a node follow from its turns**, where no write finds the pipe full. -/
theorem takeTurns_follow (turns : List Turn) (state : List Node × Journal) (ready : Ready state.1)
    (reading : state.2.pipe.readEnds ≠ 0)
    (kept : ∀ name, .eventLost name ∉ (takeTurns turns state).notes)
    {place : Nat} {node : Node} (found : state.1[place]? = some node) :
    ∃ after, (takeTurns turns state).value.1[place]? = some after ∧
      after.seen = (node.follow (samplesAt place turns)).1 ∧
      (takeTurns turns state).value.2.accepted.filter (·.sensor == node.handle) =
        state.2.accepted.filter (·.sensor == node.handle) ++
          (node.follow (samplesAt place turns)).2 := by
  induction turns generalizing state node with
  | nil => exact ⟨node, found, rfl, (List.append_nil _).symm⟩
  | cons turn rest ih =>
      have earlier : ∀ name, .eventLost name ∉ (takeTurn turn state).notes :=
        fun name lost => kept name (List.mem_append_left _ lost)
      have later : ∀ name, .eventLost name ∉ (takeTurns rest (takeTurn turn state).value).notes :=
        fun name lost => kept name (List.mem_append_right _ lost)
      have step := getElem?_takeTurn turn state place
      rw [found, Option.map_some] at step
      have continued := @ih (takeTurn turn state).value (ready.after (takeTurn_steps turn state))
        (takeTurn_reading turn state reading) later
      by_cases here : turn.place = place
      · subst here
        rw [if_pos rfl] at step
        obtain ⟨after, last, seen, accepted⟩ := continued step
        have handle := (Node.Step.ran state.2 turn.sample : node.Step _).handle
        rw [Node.follow_congr (node.cycle_seen state.2 turn.sample)] at seen accepted
        rw [handle, takeTurn_own ready reading earlier found, List.append_assoc] at accepted
        rw [samplesAt_cons, if_pos rfl, Node.follow]
        exact ⟨after, last, seen, accepted⟩
      · rw [if_neg here] at step
        obtain ⟨after, last, seen, accepted⟩ := continued step
        rw [takeTurn_foreign ready found here] at accepted
        rw [samplesAt_cons, if_neg here]
        exact ⟨after, last, seen, accepted⟩

/-- A turn of a node writes no more than its event, and that only if it is due. -/
theorem takeTurn_part {turn : Turn} {state : List Node × Journal} (ready : Ready state.1)
    {node : Node} (found : state.1[turn.place]? = some node) :
    ∃ own, own.Sublist (if (node.receive turn.sample).verdict turn.sample.period = .due then
        [(node.receive turn.sample).event] else []) ∧
      (takeTurn turn state).value.2.accepted.filter (·.sensor == node.handle) =
        state.2.accepted.filter (·.sensor == node.handle) ++ own := by
  have sensor : (node.receive turn.sample).event.sensor = node.handle :=
    (ready.sound node (List.mem_of_getElem? found)).sensor
  rw [takeTurn_some found, Logged.value_bind, Logged.value_pure]
  by_cases due : (node.receive turn.sample).verdict turn.sample.period = .due
  · rw [if_pos due]
    rcases node.cycle_outlet state.2 turn.sample with same | sent
    · exact ⟨[], List.nil_sublist _, by rw [same, List.append_nil]⟩
    · refine ⟨[(node.receive turn.sample).event], List.Sublist.refl _, ?_⟩
      rw [(Journal.send_ok sent).2, List.filter_append, List.filter_cons_of_pos (by simp [sensor]),
        List.filter_nil]
  · exact ⟨[], List.nil_sublist _, by rw [Node.cycle_kept due, List.append_nil]⟩

/-- Full or not, a node writes nothing but what follows from its turns. -/
theorem takeTurns_part (turns : List Turn) (state : List Node × Journal) (ready : Ready state.1)
    {place : Nat} {node : Node} (found : state.1[place]? = some node) :
    ∃ own, own.Sublist (node.follow (samplesAt place turns)).2 ∧
      (takeTurns turns state).value.2.accepted.filter (·.sensor == node.handle) =
        state.2.accepted.filter (·.sensor == node.handle) ++ own := by
  induction turns generalizing state node with
  | nil => exact ⟨[], List.nil_sublist _, (List.append_nil _).symm⟩
  | cons turn rest ih =>
      have step := getElem?_takeTurn turn state place
      rw [found, Option.map_some] at step
      have continued := @ih (takeTurn turn state).value (ready.after (takeTurn_steps turn state))
      by_cases here : turn.place = place
      · subst here
        rw [if_pos rfl] at step
        obtain ⟨later, among, accepted⟩ := continued step
        obtain ⟨own, due, written⟩ := takeTurn_part ready found
        have handle := (Node.Step.ran state.2 turn.sample : node.Step _).handle
        rw [Node.follow_congr (node.cycle_seen state.2 turn.sample)] at among
        rw [handle, written, List.append_assoc] at accepted
        rw [samplesAt_cons, if_pos rfl, Node.follow]
        exact ⟨own ++ later, due.append among, accepted⟩
      · rw [if_neg here] at step
        obtain ⟨later, among, accepted⟩ := continued step
        rw [takeTurn_foreign ready found here] at accepted
        rw [samplesAt_cons, if_neg here]
        exact ⟨later, among, accepted⟩

end Hub

end FusionSensors
