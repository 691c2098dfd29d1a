/-
# FusionSensors.Proofs.Replaying -- what a replay prints

All sensors of a replay are enabled at time zero, at one period, and driven by
every sample, so they stay in step: they have seen the same part of the warm-up
and their gates remember the same sample (`InStep`). What is due is due for all
of them, and a pipe with room for one event of each is empty again before the
next sample. Main statement, `run_reports`: so a replay prints, for each sample
that one gate delivers, a line for each sensor, in the order of the
configuration; what it prints of one sensor does not depend on the others. A
line is its text here (`LeafEntry.line`), apart from the writer of events, and
reads back as the event that the sensor makes.
-/
import FusionSensors.Proofs.EventText
import FusionSensors.Proofs.Session
import FusionSensors.Proofs.Sweep
import FusionSensors.Replay.Run

namespace FusionSensors

set_option autoImplicit false

/-! ## What a gate makes of a recording -/

namespace Gate

/-- The samples that a gate delivers, fed with each of a list. -/
def admits : Gate → List Sample → List Sample
  | _, [] => []
  | gate, sample :: rest =>
    let (decision, after) := gate.offer sample.timestamp sample.period
    if decision = .deliver then sample :: after.admits rest else after.admits rest

/-- The samples that a gate delivers in a session since time zero: it is not fed
those from before, nor the first few of the others. -/
def reports (gate : Gate) (toDiscard : Nat) (samples : List Sample) : List Sample :=
  gate.admits ((samples.filter (0 ≤ ·.timestamp)).drop toDiscard)

theorem admits_sublist (gate : Gate) (samples : List Sample) :
    (gate.admits samples).Sublist samples := by
  induction samples generalizing gate with
  | nil => exact .slnil
  | cons sample rest ih =>
      rw [admits]
      dsimp only
      split
      · exact (ih _).cons_cons sample
      · exact (ih _).cons sample

/-- What such a session makes of one sample: whether it is delivered, and the
gate and the rest of the warm-up afterwards. -/
def screen (gate : Gate) (toDiscard : Nat) (sample : Sample) : Bool × Gate × Nat :=
  if sample.timestamp < 0 then (false, gate, toDiscard)
  else
    match toDiscard with
    | count + 1 => (false, gate, count)
    | 0 =>
      let (decision, after) := gate.offer sample.timestamp sample.period
      (decision = .deliver, after, 0)

theorem reports_cons (gate : Gate) (toDiscard : Nat) (sample : Sample) (rest : List Sample) :
    gate.reports toDiscard (sample :: rest) =
      (if (gate.screen toDiscard sample).1 then [sample] else []) ++
        (gate.screen toDiscard sample).2.1.reports (gate.screen toDiscard sample).2.2 rest := by
  unfold reports screen
  by_cases early : sample.timestamp < 0
  · simp [early]
  · rw [List.filter_cons_of_pos (by simpa using early), if_neg early]
    cases toDiscard with
    | succ count => rfl
    | zero =>
        simp only [List.drop_zero, admits]
        by_cases delivered : (gate.offer sample.timestamp sample.period).1 = .deliver <;>
          simp [delivered]

end Gate

/-- The filters of a session see of an event only its time. -/
theorem Node.sift_screen (gate : Gate) (toDiscard : Nat) {event : Event} {sample : Sample}
    (simultaneous : event.timestamp = sample.timestamp) :
    sift gate ⟨0, toDiscard⟩ event sample.period =
      (if (gate.screen toDiscard sample).1 then [event] else [],
        (gate.screen toDiscard sample).2.1, ⟨0, (gate.screen toDiscard sample).2.2⟩) := by
  unfold sift Gate.screen
  rw [simultaneous]
  by_cases early : sample.timestamp < 0
  · simp [early]
  · cases toDiscard <;> simp [early]

/-! ## What a sensor reports -/

/-- The line of a sensor's report of a sample. -/
def LeafEntry.line (entry : LeafEntry) (sample : Sample) : String :=
  "\x7b\"sensor\":" ++ toString entry.handle ++
    ",\"sensor_type\":" ++ toString entry.leaf.traits.id ++
    ",\"timestamp\":" ++ toString sample.timestamp ++
    ",\"data\":[" ++ ",".intercalate ((entry.leaf.share sample).values.map Single.text) ++
    "],\"data_len\":\"" ++ entry.leaf.traits.shapeName ++ "\",\"kind\":\"Data\"\x7d"

/-- It is the text of the report. -/
theorem LeafEntry.line_report (entry : LeafEntry) (sample : Sample) :
    (entry.report sample).line = entry.line sample := by
  have ending : "\",\"kind\":\"".toList ++ (Event.Content.data.name.toList ++ "\"\x7d".toList) =
      "\",\"kind\":\"Data\"\x7d".toList := by decide
  apply String.toList_inj.1
  rw [Event.line_eq]
  unfold line
  simp only [String.toList_append, ← entry.leaf.shapeName_eq, List.append_assoc, report, ending]

/-- The period of all sensors: the one asked for, or else the configured one,
raised to the least delay of the fusion and then lowered to its largest one if
that is a limit. -/
def Config.pace (config : Config) (delay : Option Int) : Int :=
  let raised := max (delay.getD config.defaultPeriod) (config.fusion.minDelay * 1000)
  if 0 < config.fusion.maxDelay then min raised (config.fusion.maxDelay * 1000) else raised

namespace Hub

/-! ## Sensors in step -/

/-- A sensor at some point of a session since time zero. -/
def standing (config : Config) (gate : Gate) (toDiscard : Nat) (entry : LeafEntry) : Node :=
  { installed config entry with gate := gate, session := some ⟨0, toDiscard⟩ }

/-- All sensors of a configuration stand at one point of a session since time
zero, and their pipe is empty. -/
structure InStep (config : Config) (gate : Gate) (toDiscard : Nat) (hub : Hub) : Prop where
  seen : hub.nodes.map Node.seen =
    config.sensors.map fun entry => (standing config gate toDiscard entry).seen
  pipe : hub.pipe = .bounded config.pipeCapacity

section Standing

variable {config : Config} {gate : Gate} {toDiscard : Nat} {entry : LeafEntry} {node : Node}

/-- A sensor writes its event of a sample that is delivered, -/
theorem standing_due (stands : node.seen = (standing config gate toDiscard entry).seen) (sample : Sample) :
    node.due sample =
      if (gate.screen toDiscard sample).1 then [entry.report sample] else [] := by
  obtain ⟨bare, paced, begun⟩ := Node.seen_eq.1 stands
  have event : (node.receive sample).event = entry.report sample := by
    rw [Node.receive_event_congr bare]
    exact installed_receive config entry sample
  have begun : (node.receive sample).session = some ⟨0, toDiscard⟩ := begun
  have sifted := (Node.verdict_sift begun sample.period).1
  rw [Node.sift_screen _ _ (by rfl), event, show (node.receive sample).gate = gate from paced]
    at sifted
  rw [Node.due, event, sifted]

/-- and moves on as its gate and its warm-up do. -/
theorem standing_offered (stands : node.seen = (standing config gate toDiscard entry).seen)
    (sample : Sample) :
    (node.offered sample).seen = (standing config (gate.screen toDiscard sample).2.1
      (gate.screen toDiscard sample).2.2 entry).seen := by
  obtain ⟨bare, paced, begun⟩ := Node.seen_eq.1 stands
  have begun : (node.receive sample).session = some ⟨0, toDiscard⟩ := begun
  have sifted := (Node.verdict_sift begun sample.period).2
  rw [Node.sift_screen _ _ (by rfl), show (node.receive sample).gate = gate from paced] at sifted
  rw [Node.offered_seen, sifted.1, sifted.2, bare]
  rfl

end Standing

/-- Lists that look alike through two views do so through any that these settle. -/
theorem map_eq_of_views {α β γ δ : Type} {f : α → γ} {g : β → γ} {p : α → δ} {q : β → δ}
    (settles : ∀ a b, f a = g b → p a = q b) {list : List α} {other : List β}
    (same : list.map f = other.map g) : list.map p = other.map q := by
  induction list generalizing other with
  | nil =>
      rw [List.map_nil, eq_comm, List.map_eq_nil_iff] at same
      rw [same, List.map_nil, List.map_nil]
  | cons a rest ih =>
      obtain ⟨b, others, rfl, first, later⟩ := List.map_eq_cons_iff.1 same.symm
      rw [List.map_cons, List.map_cons, settles a b first.symm, ih later.symm]

namespace InStep

variable {config : Config} {gate : Gate} {toDiscard : Nat} {hub : Hub}

theorem stands (inStep : InStep config gate toDiscard hub) {node : Node}
    (listed : node ∈ hub.nodes) :
    ∃ entry ∈ config.sensors, node.seen = (standing config gate toDiscard entry).seen := by
  have seen : node.seen ∈ hub.nodes.map Node.seen := List.mem_map_of_mem listed
  rw [inStep.seen] at seen
  obtain ⟨entry, known, same⟩ := List.mem_map.1 seen
  exact ⟨entry, known, same.symm⟩

theorem bare (inStep : InStep config gate toDiscard hub) {node : Node} (listed : node ∈ hub.nodes) :
    ∃ entry ∈ config.sensors, node.bare = (installed config entry).bare := by
  obtain ⟨entry, known, stands⟩ := inStep.stands listed
  exact ⟨entry, known, congrArg Prod.fst stands⟩

theorem forwards (inStep : InStep config gate toDiscard hub) :
    ∀ node ∈ hub.nodes, node.forwards = true := by
  intro node listed
  obtain ⟨entry, -, same⟩ := inStep.bare listed
  rw [← Node.forwards_bare, same]
  rfl

theorem enabled (inStep : InStep config gate toDiscard hub) :
    ∀ node ∈ hub.nodes, node.isEnabled = true := by
  intro node listed
  obtain ⟨entry, -, stands⟩ := inStep.stands listed
  exact congrArg (fun seen => seen.2.2.isSome) stands

theorem driven (inStep : InStep config gate toDiscard hub) :
    ∀ node ∈ hub.nodes, node.triggerKind = some .accelGyroFusion := by
  intro node listed
  obtain ⟨entry, -, same⟩ := inStep.bare listed
  exact Node.triggerKind_eq_of_bare same

theorem undriven (inStep : InStep config gate toDiscard hub) : hub.Undriven := by
  intro node listed other within triggered
  obtain ⟨second, -, alike⟩ := inStep.bare within
  have kind : other.kind = second.leaf.kind := by
    rw [← Node.kind_bare, alike]
    rfl
  rw [inStep.driven node listed, kind] at triggered
  exact second.leaf.kind_ne (Option.some.inj triggered).symm

/-- The pipe is empty, so it has room for an event of each. -/
theorem room (inStep : InStep config gate toDiscard hub)
    (fits : config.sensors.length ≤ config.pipeCapacity) :
    hub.pipe.queue.length + hub.nodes.length ≤ hub.pipe.capacity := by
  have many := congrArg List.length inStep.seen
  rw [List.length_map, List.length_map] at many
  rw [inStep.pipe, many, Pipe.bounded, List.length_nil, Nat.zero_add]
  exact fits

/-- What is due of a sample is due of every sensor. -/
theorem due (inStep : InStep config gate toDiscard hub) (sample : Sample) :
    hub.nodes.flatMap (·.due sample) =
      if (gate.screen toDiscard sample).1 then config.sensors.map (·.report sample) else [] := by
  rw [List.flatMap_def, map_eq_of_views (fun _ _ stands => standing_due stands sample) inStep.seen]
  split
  · rw [← List.flatMap_def, List.map_eq_flatMap]
  · simp

/-- A sample goes to all sensors, and the pipe is empty again afterwards. -/
theorem replaySample (inStep : InStep config gate toDiscard hub)
    (fits : config.sensors.length ≤ config.pipeCapacity) (sample : Sample) :
    InStep config (gate.screen toDiscard sample).2.1 (gate.screen toDiscard sample).2.2
        (Replay.replaySample hub sample).value.1 ∧
      (Replay.replaySample hub sample).value.2 =
        if (gate.screen toDiscard sample).1 then config.sensors.map (·.report sample) else [] := by
  have reading : hub.pipe.readEnds ≠ 0 := by
    rw [inStep.pipe]
    exact Nat.one_ne_zero
  have swept := deliver_sweep inStep.undriven inStep.forwards inStep.enabled inStep.driven reading
    (inStep.room fits) sample
  dsimp only at swept
  obtain ⟨seen, pipe⟩ := swept
  rw [inStep.pipe, inStep.due] at pipe
  have moved : (Replay.replaySample hub sample).value =
      (((hub.deliver .accelGyroFusion sample).value.1.poll
          (hub.deliver .accelGyroFusion sample).value.1.pipe.queue.length).2,
        ((hub.deliver .accelGyroFusion sample).value.1.poll
          (hub.deliver .accelGyroFusion sample).value.1.pipe.queue.length).1) := rfl
  rw [moved]
  refine ⟨⟨?_, ?_⟩, ?_⟩
  · show (hub.deliver .accelGyroFusion sample).value.1.nodes.map Node.seen = _
    rw [seen]
    exact map_eq_of_views (fun _ _ stands => standing_offered stands sample) inStep.seen
  · -- the relay takes as many events as are queued
    simp only [poll, Pipe.poll, List.drop_length]
    rw [pipe]
    rfl
  · simp only [poll, Pipe.poll, List.take_length]
    rw [pipe]
    exact List.nil_append _

/-- Each sample that is delivered is an event of each sensor. -/
theorem replaySamples (inStep : InStep config gate toDiscard hub)
    (fits : config.sensors.length ≤ config.pipeCapacity) (samples : List Sample) :
    (Replay.replaySamples samples hub).value.2 =
      (gate.reports toDiscard samples).flatMap fun sample => config.sensors.map (·.report sample) := by
  induction samples generalizing gate toDiscard hub with
  | nil =>
      rw [Gate.reports, List.filter_nil, List.drop_nil]
      rfl
  | cons sample rest ih =>
      obtain ⟨next, events⟩ := inStep.replaySample fits sample
      have later := ih next
      show (Replay.replaySample hub sample).value.2 ++
        (Replay.replaySamples rest (Replay.replaySample hub sample).value.1).value.2 = _
      rw [events, later, Gate.reports_cons, List.flatMap_append]
      split
      · rw [List.flatMap_singleton]
      · rw [List.flatMap_nil]

end InStep

/-! ## Enabling the sensors -/

/-- The hub with the nodes of a handle changed. -/
def touch (hub : Hub) (handle : Int) (f : Node → Node) : Hub :=
  { hub with nodes := hub.nodes.map fun node => if node.handle = handle then f node else node }

/-- Where handles are distinct, the node that is found is the only one to change. -/
theorem change_touch {hub : Hub} (distinct : (hub.nodes.map Node.handle).Nodup) (handle : Int)
    {f : Node → Node} (kept : ∀ node, (f node).handle = node.handle) :
    hub.change handle f = hub.touch handle f := by
  cases found : hub.node? handle with
  | none =>
      have unknown := node?_eq_none.1 found
      have same : (hub.nodes.map fun node => if node.handle = handle then f node else node) =
          hub.nodes := by
        refine (List.map_congr_left fun node listed => if_neg ?_).trans (List.map_id _)
        rintro rfl
        exact unknown (List.mem_map_of_mem listed)
      rw [change, found, Option.elim_none, touch, same]
  | some node =>
      obtain ⟨known, rfl⟩ := node?_some found
      rw [change, found, Option.elim_some, touch, put, kept]
      congr 1
      refine List.map_congr_left fun old listed => ?_
      by_cases same : old.handle = node.handle
      · rw [if_pos same, if_pos same, List.inj_on_of_nodup_map distinct listed known same]
      · rw [if_neg same, if_neg same]

section Touch

variable {hub : Hub} {f g : Node → Node}

theorem touch_id (hub : Hub) (handle : Int) : hub.touch handle (fun node => node) = hub := by
  simp [touch]

theorem touch_touch (handle : Int) (kept : ∀ node, (f node).handle = node.handle) :
    (hub.touch handle f).touch handle g = hub.touch handle (fun node => g (f node)) := by
  simp only [touch, List.map_map]
  congr 1
  refine List.map_congr_left fun node _ => ?_
  by_cases here : node.handle = handle <;> simp [here, kept]

theorem touch_handles (hub : Hub) (handle : Int) (kept : ∀ node, (f node).handle = node.handle) :
    (hub.touch handle f).nodes.map Node.handle = hub.nodes.map Node.handle := by
  rw [touch, List.map_map]
  refine List.map_congr_left fun node _ => ?_
  rw [Function.comp_apply]
  split
  · exact kept node
  · rfl

/-- Changing the nodes of some handles, one after the other. -/
theorem touch_foldl (kept : ∀ node, (f node).handle = node.handle) {handles : List Int}
    (distinct : handles.Nodup) (hub : Hub) :
    handles.foldl (fun hub handle => hub.touch handle f) hub =
      { hub with nodes := hub.nodes.map fun node => if node.handle ∈ handles then f node else node } := by
  induction handles generalizing hub with
  | nil => simp
  | cons handle rest ih =>
      obtain ⟨fresh, others⟩ := List.nodup_cons.1 distinct
      rw [List.foldl_cons, ih others, touch, List.map_map]
      congr 1
      refine List.map_congr_left fun node _ => ?_
      by_cases here : node.handle = handle
      · simp [here, kept, fresh]
      · simp [here]

end Touch

/-- A node that is there can be switched, given a default period to set, -/
theorem switch_known (hub : Hub) (positive : 0 < hub.defaultPeriod) {handle : Int}
    (known : handle ∈ hub.nodes.map Node.handle) (on : Bool) (now : Int) :
    ∃ logged, hub.switch handle on now = .ok logged ∧
      logged.value = hub.change handle (readied hub.defaultPeriod on now) := by
  cases found : hub.node? handle with
  | none => exact absurd known (node?_eq_none.1 found)
  | some node =>
      obtain ⟨logged, started, value⟩ := started_readied positive on now node
      rw [switch_found found, started]
      exact ⟨_, rfl, by rw [Logged.value_map, value, change, found, Option.elim_some]⟩

/-- and a positive period be requested of it. -/
theorem setPeriod_known {hub : Hub} {period : Int} (positive : 0 < period) {handle : Int}
    (known : handle ∈ hub.nodes.map Node.handle) :
    ∃ logged, hub.setPeriod handle period = .ok logged ∧
      logged.value.1 = hub.change handle (·.paced period) := by
  cases found : hub.node? handle with
  | none => exact absurd known (node?_eq_none.1 found)
  | some node =>
      obtain ⟨set, accepted, value⟩ := node.setPeriod_pos positive
      rw [setPeriod_found found, accepted]
      exact ⟨_, rfl, by rw [Logged.value_map, value, change, found, Option.elim_some]⟩

end Hub

namespace Replay

/-- A step that succeeds goes on with its value. -/
theorem step_bind {α β : Type} {first : Step α} {next : α → Step β} {a : α}
    (done : first.run.value = .ok a) : (first >>= next).run.value = (next a).run.value := by
  rw [ExceptT.run_bind, Logged.value_bind, done]

theorem step_value {α : Type} {outcome : Except Fault (Logged α)} {logged : Logged α}
    (accepted : outcome = .ok logged) : (step outcome).run.value = .ok logged.value := by
  rw [accepted]
  rfl

/-- What a replay does to a sensor before the first sample. -/
def readied (delay : Option Int) (defaultPeriod : Int) (node : Node) : Node :=
  Hub.readied defaultPeriod true 0 (delay.elim node node.paced)

theorem readied_bare (delay : Option Int) (defaultPeriod : Int) (node : Node) :
    (readied delay defaultPeriod node).bare = node.bare := by
  rw [readied, Hub.readied_bare]
  cases delay <;> rfl

theorem readied_handle (delay : Option Int) (defaultPeriod : Int) (node : Node) :
    (readied delay defaultPeriod node).handle = node.handle :=
  Node.handle_eq_of_bare (readied_bare delay defaultPeriod node)

/-- Requests a period of a sensor, if one is asked for. -/
def request (delay : Option Int) (handle : Int) (hub : Hub) : Step Hub :=
  match delay with
  | none => pure hub
  | some period => Prod.fst <$> step (hub.setPeriod handle period)

theorem enableAll_cons (delay : Option Int) (handle : Int) (rest : List Int) (hub : Hub) :
    enableAll delay (handle :: rest) hub = request delay handle hub >>= fun paced =>
      step (paced.switch handle true 0) >>= enableAll delay rest := by
  cases delay <;> rfl

/-- Readying one sensor that is there succeeds, with a positive period or without any. -/
theorem enable_value {delay : Option Int} (asked : ∀ period ∈ delay, 0 < period) {hub : Hub}
    (distinct : (hub.nodes.map Node.handle).Nodup) (positive : 0 < hub.defaultPeriod) {handle : Int}
    (known : handle ∈ hub.nodes.map Node.handle) :
    ∃ paced, (request delay handle hub).run.value = .ok paced ∧
      (step (paced.switch handle true 0)).run.value =
        .ok (hub.touch handle (readied delay hub.defaultPeriod)) := by
  have kept (node : Node) : (delay.elim node node.paced).handle = node.handle := by
    cases delay <;> rfl
  refine ⟨hub.touch handle fun node => delay.elim node node.paced, ?_, ?_⟩
  · cases delay with
    | none => exact congrArg Except.ok (Hub.touch_id hub handle).symm
    | some period =>
        obtain ⟨logged, accepted, value⟩ := Hub.setPeriod_known (asked period rfl) known
        rw [request, ExceptT.run_map, Logged.value_map, step_value accepted]
        exact congrArg Except.ok (value.trans (Hub.change_touch distinct handle fun _ => rfl))
  · have named := hub.touch_handles handle kept
    obtain ⟨logged, accepted, value⟩ := Hub.switch_known
      (hub.touch handle fun node => delay.elim node node.paced) positive
      (named ▸ known) true 0
    rw [step_value accepted, value, Hub.change_touch (named ▸ distinct) handle fun node =>
      Node.handle_eq_of_bare (Hub.readied_bare _ true 0 node), Hub.touch_touch handle kept]
    rfl

theorem enableAll_value {delay : Option Int} (asked : ∀ period ∈ delay, 0 < period) {hub : Hub}
    (distinct : (hub.nodes.map Node.handle).Nodup) (positive : 0 < hub.defaultPeriod)
    {handles : List Int} (known : ∀ handle ∈ handles, handle ∈ hub.nodes.map Node.handle) :
    (enableAll delay handles hub).run.value =
      .ok (handles.foldl (fun now handle => now.touch handle (readied delay hub.defaultPeriod)) hub) := by
  induction handles generalizing hub with
  | nil => rfl
  | cons handle rest ih =>
      obtain ⟨here, others⟩ := List.forall_mem_cons.1 known
      obtain ⟨paced, requested, switched⟩ := enable_value asked distinct positive here
      have named := hub.touch_handles handle (readied_handle delay hub.defaultPeriod)
      have later := @ih (hub.touch handle (readied delay hub.defaultPeriod))
        (by rw [named]; exact distinct) positive (by rw [named]; exact others)
      rw [enableAll_cons, step_bind requested, step_bind switched, later, List.foldl_cons]
      rfl

/-- A configured sensor is readied for a session at the period of all. -/
theorem readied_installed {delay : Option Int} (asked : ∀ period ∈ delay, 0 < period)
    (config : Config) (entry : LeafEntry) :
    (readied delay config.defaultPeriod (Hub.installed config entry)).seen =
      (Hub.standing config ⟨config.pace delay, none⟩ config.warmup entry).seen := by
  have paced : readied delay config.defaultPeriod (Hub.installed config entry) =
      (((Hub.installed config entry).paced (delay.getD config.defaultPeriod)).switch true 0).value := by
    rw [readied, Hub.readied]
    cases delay with
    | none => rfl
    | some period =>
        have positive : 0 < ((Hub.installed config entry).paced period).period :=
          Descriptor.clampPeriod_pos _ (asked period rfl)
        rw [Option.elim_some, if_neg (by omega), Option.getD_some]
  rw [paced, Node.switch_value]
  rfl

/-- All sensors of a configuration are then in step, at the beginning of a session. -/
theorem enableAll_inStep {config : Config} {delay : Option Int}
    (asked : ∀ period ∈ delay, 0 < period) {logged : Logged Hub}
    (built : Hub.ofConfig config = .ok logged) :
    ∃ hub, (enableAll delay (config.sensors.map LeafEntry.handle) logged.value).run.value = .ok hub ∧
      Hub.InStep config ⟨config.pace delay, none⟩ config.warmup hub := by
  obtain ⟨valid, run, nodes, -⟩ := Hub.ofConfig_built built
  obtain ⟨pipe, period⟩ := @Hub.run_adds (Hub.bare config.pipeCapacity config.defaultPeriod) _
    (Hub.installation_adds config)
  rw [← run] at pipe period
  have period : logged.value.defaultPeriod = config.defaultPeriod := period
  obtain ⟨-, positive, unique⟩ := Hub.validate_iff.1 valid
  have handles : logged.value.nodes.map Node.handle = config.sensors.map LeafEntry.handle := by
    rw [nodes, List.map_map]
    rfl
  have distinct := (List.nodup_cons.1 unique).2
  refine ⟨_, enableAll_value asked (handles ▸ distinct) (by rw [period]; exact positive)
    (by rw [handles]; exact fun _ => id), ?_⟩
  rw [Hub.touch_foldl (readied_handle delay _) distinct, period]
  refine ⟨?_, pipe⟩
  show (logged.value.nodes.map _).map Node.seen = _
  rw [nodes, List.map_map, List.map_map]
  refine List.map_congr_left fun entry listed => ?_
  have own : (Hub.installed config entry).handle ∈ config.sensors.map LeafEntry.handle :=
    List.mem_map_of_mem listed
  rw [Function.comp_apply, Function.comp_apply, if_pos own, readied_installed asked]

/-! ## The replay -/

/-- The configuration and the samples of a replay that can be made, from a pipe
with room for one event of each sensor. -/
structure Prepared (arguments : Arguments) (files : String → File) (config : Config)
    (samples : List Sample) : Prop where
  /-- the usual configuration, or else the valid one of the file that is named -/
  configured : arguments.config = none ∧ config = {} ∨
    ∃ path, arguments.config = some path ∧ Config.load path (files path) = .ok config
  /-- the samples of the recording that is named, or else synthetic ones -/
  recorded : (∃ path, arguments.input = some path ∧ loadRecords path (files path) = .ok samples) ∨
    ∃ count, arguments.input = none ∧ arguments.synthetic = some count ∧
      samples = syntheticSamples count arguments.rate
  room : config.sensors.length ≤ config.pipeCapacity
  asked : ∀ period ∈ arguments.delay, 0 < period

/-- The samples that every sensor reports. -/
def reported (config : Config) (delay : Option Int) (samples : List Sample) : List Sample :=
  Gate.reports ⟨config.pace delay, none⟩ config.warmup samples

/-- The events of a replay: of each sample that is reported, one of each sensor. -/
def events (config : Config) (delay : Option Int) (samples : List Sample) : List Event :=
  (reported config delay samples).flatMap fun sample => config.sensors.map (·.report sample)

/-- The lines of a replay: of each sample that is reported, one of each sensor. -/
def lines (config : Config) (delay : Option Int) (samples : List Sample) : List String :=
  (reported config delay samples).flatMap fun sample => config.sensors.map (·.line sample)

/-- The lines are the texts of the events. -/
theorem events_lines (config : Config) (delay : Option Int) (samples : List Sample) :
    (events config delay samples).map Event.line = lines config delay samples := by
  rw [events, lines, List.map_flatMap]
  simp only [List.map_map, Function.comp_def, LeafEntry.line_report]

theorem reported_sublist (config : Config) (delay : Option Int) (samples : List Sample) :
    (reported config delay samples).Sublist (samples.filter (0 ≤ ·.timestamp)) :=
  (Gate.admits_sublist _ _).trans (List.drop_sublist ..)

/-- A configuration that is loaded is valid, and its numbers fit their members. -/
theorem load_ok {path : String} {file : File} {config : Config}
    (loaded : Config.load path file = .ok config) : config.validate = .ok () ∧ config.Fits := by
  rw [Config.load] at loaded
  split at loaded
  · cases loaded
  · exact ⟨(Hub.ofText_ok loaded).2, Config.ofText_fits loaded⟩

theorem configFor_valid {arguments : Arguments} {files : String → File} {config : Config}
    (configured : configFor arguments files = .ok config) : config.validate = .ok () := by
  rw [configFor] at configured
  split at configured
  · cases configured
    decide
  · rename_i path _
    cases loaded : Config.load path (files path) with
    | error fault =>
        rw [loaded] at configured
        cases configured
    | ok other =>
        rw [loaded] at configured
        cases configured
        exact (load_ok loaded).1

namespace Prepared

variable {arguments : Arguments} {files : String → File} {config : Config} {samples : List Sample}

theorem configFor (prepared : Prepared arguments files config samples) :
    Replay.configFor arguments files = .ok config := by
  rcases prepared.configured with ⟨unnamed, rfl⟩ | ⟨path, named, loaded⟩
  · rw [Replay.configFor, unnamed]
  · rw [Replay.configFor, named]
    dsimp only
    rw [loaded]
    rfl

theorem samplesFor (prepared : Prepared arguments files config samples) :
    Replay.samplesFor arguments files = .ok samples := by
  rcases prepared.recorded with ⟨path, named, loaded⟩ | ⟨count, unnamed, counted, rfl⟩
  · rw [Replay.samplesFor, named]
    exact loaded
  · rw [Replay.samplesFor, unnamed, counted]

theorem valid (prepared : Prepared arguments files config samples) : config.validate = .ok () :=
  configFor_valid prepared.configFor

/-- The numbers of a configuration that is used fit their members. -/
theorem fits (prepared : Prepared arguments files config samples) : config.Fits := by
  rcases prepared.configured with ⟨-, rfl⟩ | ⟨path, -, loaded⟩
  · exact ⟨by decide, by decide, by decide, ⟨by decide, by decide, by decide⟩, by decide⟩
  · exact (load_ok loaded).2

theorem distinct (prepared : Prepared arguments files config samples) :
    (config.sensors.map LeafEntry.handle).Nodup :=
  (List.nodup_cons.1 (Hub.validate_iff.1 prepared.valid).2.2).2

/-- The numbers of an event fit its line, if its time does. -/
theorem event_fits (prepared : Prepared arguments files config samples) {event : Event}
    (listed : event ∈ events config arguments.delay samples)
    (timely : event.timestamp ≤ Gate.maxTime) : event.Fits := by
  obtain ⟨sample, among, made⟩ := List.mem_flatMap.1 listed
  obtain ⟨entry, within, rfl⟩ := List.mem_map.1 made
  have since : 0 ≤ sample.timestamp := by
    simpa using (List.mem_filter.1 ((reported_sublist _ _ _).subset among)).2
  constructor
  case sensor => exact prepared.fits.sensors entry within
  case kindId =>
      show InInt32 entry.leaf.traits.id
      cases entry.leaf <;> decide
  case timestamp =>
      exact ⟨Int.le_trans (by decide) since, timely⟩

end Prepared

/-- What a replay prints is its lines. -/
theorem run_value {arguments : Arguments} {files : String → File} {config : Config}
    {samples : List Sample} (prepared : Prepared arguments files config samples) :
    (run arguments files).run.value = .ok (lines config arguments.delay samples) := by
  obtain ⟨logged, built, -⟩ := Hub.ofConfig_accepts prepared.valid
  obtain ⟨ready, enabled, inStep⟩ := enableAll_inStep prepared.asked built
  have configured : (ExceptT.mk (pure (configFor arguments files)) : Step Config).run.value =
      .ok config := prepared.configFor
  have recorded : (ExceptT.mk (pure (samplesFor arguments files)) : Step (List Sample)).run.value =
      .ok samples := prepared.samplesFor
  rw [run, step_bind configured, step_bind recorded, step_bind (step_value built), step_bind enabled]
  show Except.ok ((replaySamples samples ready).value.2.map Event.line) = _
  rw [inStep.replaySamples prepared.room samples, ← events_lines]
  rfl

/-- Of the reports of one sample, one is that of a given sensor. -/
theorem reports_filter {sensors : List LeafEntry}
    (distinct : (sensors.map LeafEntry.handle).Nodup) {entry : LeafEntry} (listed : entry ∈ sensors)
    (sample : Sample) :
    (sensors.map (·.report sample)).filter (·.sensor == entry.handle) = [entry.report sample] := by
  obtain ⟨before, after, rfl⟩ := List.append_of_mem listed
  rw [List.map_append, List.map_cons, List.nodup_append, List.nodup_cons] at distinct
  obtain ⟨-, ⟨later, -⟩, apart⟩ := distinct
  have earlier : (before.map (·.report sample)).filter (·.sensor == entry.handle) = [] := by
    rw [List.filter_eq_nil_iff, List.forall_mem_map]
    intro other known same
    exact apart _ (List.mem_map_of_mem known) _ List.mem_cons_self (eq_of_beq same)
  have behind : (after.map (·.report sample)).filter (·.sensor == entry.handle) = [] := by
    rw [List.filter_eq_nil_iff, List.forall_mem_map]
    intro other known same
    rw [← eq_of_beq same] at later
    exact later (List.mem_map_of_mem known)
  rw [List.map_append, List.map_cons, List.filter_append, List.filter_cons_of_pos (by simp [LeafEntry.report]),
    earlier, behind, List.nil_append]

/-- What is printed of one sensor. -/
theorem events_filter {config : Config} (distinct : (config.sensors.map LeafEntry.handle).Nodup)
    {entry : LeafEntry} (listed : entry ∈ config.sensors) (delay : Option Int)
    (samples : List Sample) :
    (events config delay samples).filter (·.sensor == entry.handle) =
      (reported config delay samples).map entry.report := by
  rw [events, List.filter_flatMap, List.map_eq_flatMap]
  congr 1
  funext sample
  exact reports_filter distinct listed sample

/-- What a replay prints. -/
structure Reports (arguments : Arguments) (files : String → File) (config : Config)
    (samples : List Sample) : Prop where
  /-- a line for each sample that is reported and each sensor, and nothing else -/
  printed : (run arguments files).run.value = .ok (lines config arguments.delay samples)
  /-- of samples since time zero, in their order, each at most once -/
  inOrder : (reported config arguments.delay samples).Sublist (samples.filter (0 ≤ ·.timestamp))
  /-- the lines are the texts of the events -/
  texts : lines config arguments.delay samples =
    (events config arguments.delay samples).map Event.line
  /-- and read back as these, if their time fits and their values are finite -/
  readable : ∀ event ∈ events config arguments.delay samples, event.timestamp ≤ Gate.maxTime →
    (∀ x ∈ event.data.values, x.isFinite = true ∧ x.Restored) →
      Json.Reader.whole Event.schema.read event.line = .ok event
  /-- those of one sensor are its reports -/
  ofSensor : ∀ entry ∈ config.sensors,
    (events config arguments.delay samples).filter (·.sensor == entry.handle) =
      (reported config arguments.delay samples).map entry.report

/-- **A replay prints what one gate delivers**: for each sample that the gate of
the sensors' period delivers of the recording, a line for each sensor, in the
order of the configuration. So what it prints of a sensor is settled by the
sensor and the period, and neither by the other sensors nor by the pipe. -/
theorem run_reports {arguments : Arguments} {files : String → File} {config : Config}
    {samples : List Sample} (prepared : Prepared arguments files config samples) :
    Reports arguments files config samples ∧
      ∀ (others : Arguments) (otherFiles : String → File) (other : Config),
        Prepared others otherFiles other samples →
        other.pace others.delay = config.pace arguments.delay → other.warmup = config.warmup →
        ∀ entry ∈ config.sensors, entry ∈ other.sensors →
          (events other others.delay samples).filter (·.sensor == entry.handle) =
            (events config arguments.delay samples).filter (·.sensor == entry.handle) := by
  constructor
  · constructor
    case printed => exact run_value prepared
    case inOrder => exact reported_sublist config arguments.delay samples
    case texts => exact (events_lines config arguments.delay samples).symm
    case readable =>
        intro event listed timely restored
        exact Event.schema.format.whole_line
          (Event.schema_recovers (prepared.event_fits listed timely) restored)
    case ofSensor => exact fun entry listed => events_filter prepared.distinct listed _ samples
  · intro others otherFiles other also pace warmup entry listed within
    rw [events_filter prepared.distinct listed, events_filter also.distinct within, reported,
      reported, pace, warmup]

/-- Two sensors on a pipe with room for one event of each, after a warm-up of one sample. -/
def tightFile : String :=
  "\x7b\"pipe_capacity\":2,\"samples_to_discard\":1," ++
    "\"sensors\":[[\"g\",7,\"gravity\"],[\"o\",-2,\"game_rotation_vector\"]]\x7d"

def tight : Config :=
  { pipeCapacity := 2, warmup := 1, sensors := [⟨"g", 7, .gravity⟩, ⟨"o", -2, .gameRotationVector⟩] }

/-- Samples before time zero, in the warm-up, in time and too early, each as a list
of its members. -/
def tightRecording : String :=
  "[-1,2,[]]\n[0,2,[]]\n[2,2,[0,0.1,-0.0,1,9.80665,2,1e-7,3]]\n[4,2,[5]]"

def tightSamples : List Sample :=
  [ ⟨.zero, -1, 2⟩, ⟨.zero, 0, 2⟩,
    ⟨.ofList [⟨0⟩, ⟨0x3DCCCCCD⟩, ⟨0x80000000⟩, ⟨0x3F800000⟩, ⟨0x411CE80A⟩, ⟨0x40000000⟩,
      ⟨0x33D6BF95⟩, ⟨0x40400000⟩], 2, 2⟩,
    ⟨.ofList [⟨0x40A00000⟩], 4, 2⟩ ]

def tightFiles (path : String) : File :=
  .content (if path = "tight.json" then tightFile else tightRecording).toUTF8

def tightReplay : Arguments :=
  { input := some "tight.jsonl", config := some "tight.json", delay := some 5000000 }

theorem tightReplay_prepared : Prepared tightReplay tightFiles tight tightSamples where
  configured := .inr ⟨"tight.json", rfl, by decide +kernel⟩
  recorded := .inl ⟨"tight.jsonl", rfl, by decide +kernel⟩
  room := by decide
  asked := by decide

/-- The one sample in time is reported by each sensor. -/
theorem tightReplay_reports : Prepared tightReplay tightFiles tight tightSamples ∧
    Reports tightReplay tightFiles tight tightSamples ∧
    (run tightReplay tightFiles).run.value = .ok
      [ "\x7b\"sensor\":7,\"sensor_type\":9,\"timestamp\":2,\"data\":[9.80665,2.0,1e-7," ++
          "0.0,0.0,0.0,0.0,0.0,0.0,0.0,0.0,0.0,0.0,0.0,0.0,0.0],\"data_len\":\"Axis3\"," ++
          "\"kind\":\"Data\"\x7d",
        "\x7b\"sensor\":-2,\"sensor_type\":15,\"timestamp\":2,\"data\":[0.0,0.1,-0.0,1.0," ++
          "0.0,0.0,0.0,0.0,0.0,0.0,0.0,0.0,0.0,0.0,0.0,0.0],\"data_len\":\"Axis4\"," ++
          "\"kind\":\"Data\"\x7d" ] ∧
    ∀ event ∈ events tight (some 5000000) tightSamples,
      Json.Reader.whole Event.schema.read event.line = .ok event := by
  obtain ⟨reports, -⟩ := run_reports tightReplay_prepared
  have timely : ∀ event ∈ events tight (some 5000000) tightSamples,
      event.timestamp ≤ Gate.maxTime := by decide +kernel
  have restored : ∀ event ∈ events tight (some 5000000) tightSamples,
      ∀ x ∈ event.data.values, x.isFinite = true ∧ x.Restored := by decide +kernel
  exact ⟨tightReplay_prepared, reports, reports.printed.trans (congrArg Except.ok (by decide +kernel)),
    fun event listed => reports.readable event listed (timely event listed) (restored event listed)⟩

end Replay

end FusionSensors
