/-
# FusionSensors.Proofs.Origin -- what a reported event is

Main statement, `events_stem`: every data event that is returned in a run of a
configured hub is the configured slot of a fused sample that was delivered
earlier, while the sensor was enabled and no later than the sample. Different
events of a sensor come from different deliveries, in the same order.

The sensors of a configuration do not drive each other, so a delivery gives
each of them one turn at most (`turns_undriven`), and a turn writes one event at
most, which is made of that sample alone. The queue and the beginning of the
session are other modules' work.
-/
import FusionSensors.Proofs.Configured
import FusionSensors.Proofs.Fifo
import FusionSensors.Proofs.Onset

namespace FusionSensors

set_option autoImplicit false

namespace Hub

/-! ## Sensors that do not drive each other -/

/-- No node is driven by another one. -/
def Undriven (hub : Hub) : Prop :=
  ∀ node ∈ hub.nodes, ∀ other ∈ hub.nodes, node.triggerKind ≠ some other.kind

/-- Then a delivery ends with the nodes that its source triggers. -/
theorem turns_undriven {hub : Hub} (undriven : hub.Undriven) (source : SensorKind)
    (sample : Sample) :
    hub.turns source sample = (hits source hub.roster).map (⟨·, sample⟩) := by
  have known : ∀ {place : Nat} {node : Node} {active : Bool},
      hub.roster[place]? = some (node, active) → node ∈ hub.nodes := by
    intro place node active found
    rw [← hub.roster_nodes]
    exact List.mem_map_of_mem (List.mem_of_getElem? found)
  have ends : (hits source hub.roster).reverse.flatMap
      (via hub.roster (routes hub.roster maxCascadeDepth)) = [] := by
    rw [List.flatMap_eq_nil_iff]
    intro place listed
    obtain ⟨node, active, -⟩ := mem_hits.1 (List.mem_reverse.1 listed)
    rw [List.eq_nil_iff_forall_not_mem]
    intro walk within
    obtain ⟨entry, rest, found, further, -⟩ := mem_via.1 within
    cases (mem_routes.1 further).1 with
    | here next triggered | onward next triggered _ =>
        exact undriven _ (known next) entry.1 (known found) triggered
  rw [turns, schedule, routes, ends, List.append_nil, List.map_map]
  rfl

/-- A node has one turn in such a delivery if the source triggers it, and none otherwise. -/
theorem samplesAt_undriven {hub : Hub} (undriven : hub.Undriven) (source : SensorKind)
    (sample : Sample) (place : Nat) :
    samplesAt place (hub.turns source sample) =
      if place ∈ hits source hub.roster then [sample] else [] := by
  have places : (hits source hub.roster).filter (· == place) =
      if place ∈ hits source hub.roster then [place] else [] := by
    rw [List.filter_beq, List.Nodup.count (nodup_hits source hub.roster)]
    split <;> rfl
  rw [turns_undriven undriven, samplesAt, List.filter_map, List.map_map]
  show ((hits source hub.roster).filter (· == place)).map (fun _ => sample) = _
  rw [places]
  split <;> rfl

/-- Whether nodes drive each other depends on their natures only. -/
theorem Undriven.of_bare {hub after : Hub} (undriven : hub.Undriven)
    (same : after.nodes.map Node.bare = hub.nodes.map Node.bare) : after.Undriven := by
  intro node listed other within
  obtain ⟨old, known, alike⟩ := exists_alike same listed
  obtain ⟨second, member, twin⟩ := exists_alike same within
  rw [← Node.triggerKind_bare, ← alike, Node.triggerKind_bare, ← Node.kind_bare other, ← twin,
    Node.kind_bare]
  exact undriven old known second member

/-- A command gets no data event of a sensor accepted, or one: then it delivers a
sample of the sensor's source, and the event is what the sensor makes of it. -/
theorem accepted_reports {hub : Hub} (fit : hub.Fit) (undriven : hub.Undriven) (now : Int)
    {command : Command} (controls : command.Controls) (handle : Int) :
    (hub.accepted now command).filter (·.reports handle) = [] ∨
      ∃ source sample node, command = .deliver source sample ∧ node ∈ hub.nodes ∧
        node.handle = handle ∧ node.triggerKind = some source ∧
        (node.receive sample).verdict sample.period = .due ∧
        (hub.accepted now command).filter (·.reports handle) = [(node.receive sample).event] := by
  cases command with
  | register | registerProvider => exact controls.elim
  | switch | setPeriod | poll => exact .inl rfl
  | flush other =>
      rcases hub.flush_accepted now other with ⟨-, -, -, -, written, -⟩ | ⟨-, -, unwritten, -⟩
      · exact .inl (by rw [written]; simp [Event.reports, Event.flushMark])
      · exact .inl (by rw [unwritten, List.filter_nil])
  | deliver source sample =>
      have part : ((hub.accepted now (.deliver source sample)).filter (·.reports handle)).Sublist
          ((hub.accepted now (.deliver source sample)).filter (·.sensor == handle)) := by
        refine List.monotone_filter_right _ ?_
        intro event reports
        simp only [Event.reports, Bool.and_eq_true] at reports
        exact reports.1
      cases found : hub.node? handle with
      | none =>
          rw [(deliver_unknown fit.ready now source sample found).2] at part
          exact .inl (List.sublist_nil.1 part)
      | some node =>
          obtain ⟨known, rfl⟩ := node?_some found
          obtain ⟨place, placed⟩ := List.mem_iff_getElem?.1 known
          have among := part.trans (deliver_part fit.ready now source sample placed)
          rw [samplesAt_undriven undriven] at among
          by_cases hit : place ∈ hits source hub.roster
          · obtain ⟨other, active, triggered⟩ := mem_hits.1 hit
            obtain rfl : other = node := by
              have listed := congrArg (Option.map Prod.fst) active
              rw [← List.getElem?_map, hub.roster_nodes, placed] at listed
              exact (Option.some.inj listed).symm
            rw [if_pos hit, Node.follow] at among
            by_cases due : (other.receive sample).verdict sample.period = .due
            · rw [if_pos due] at among
              rcases List.sublist_singleton.1 among with none | one
              · exact .inl none
              · exact .inr ⟨source, sample, other, rfl, known, rfl, triggered, due, one⟩
            · rw [if_neg due] at among
              exact .inl (List.sublist_nil.1 among)
          · rw [if_neg hit] at among
            exact .inl (List.sublist_nil.1 among)

/-- The data events of a sensor are recorded by different commands, one after the other. -/
theorem recorded_ascend {hub : Hub} (fit : hub.Fit) (undriven : hub.Undriven)
    {commands : List (Int × Command)} (controls : ∀ entry ∈ commands, entry.2.Controls) (place : Nat)
    (handle : Int) :
    ((hub.recorded place commands).filter (·.2.reports handle)).Pairwise (·.1 < ·.1) := by
  induction commands generalizing hub place with
  | nil => exact .nil
  | cons entry rest ih =>
      obtain ⟨now, command⟩ := entry
      have control : command.Controls := controls (now, command) List.mem_cons_self
      have natures := (hub.perform_effect now command).bare fit.sound.handles control
      have others := ih (fit.perform now control) (undriven.of_bare natures.1)
        (fun later within => controls later (List.mem_cons_of_mem _ within)) (place + 1)
      have own : ((hub.accepted now command).map (place, ·)).filter (·.2.reports handle) =
          ((hub.accepted now command).filter (·.reports handle)).map (place, ·) := by
        rw [List.filter_map]
        rfl
      rw [recorded, List.filter_append, own]
      rcases accepted_reports fit undriven now control handle
        with none | ⟨source, sample, node, -, -, -, -, -, one⟩
      · rw [none]
        exact others
      · rw [one]
        refine List.pairwise_cons.2 ⟨?_, others⟩
        intro later listed
        obtain ⟨steps, -, -, placed, -⟩ := mem_recorded (List.mem_filter.1 listed).1
        show place < later.1
        omega

/-! ## Configured hubs -/

/-- A hub as a configuration makes it. -/
structure Installs (config : Config) (start : Hub) : Prop where
  fit : start.Fit
  nodes : start.nodes = config.sensors.map (installed config)
  queue : start.pipe.queue = []

theorem ofConfig_installs {config : Config} (valid : config.validate = .ok ()) :
    ∃ logged, ofConfig config = .ok logged ∧ Installs config logged.value := by
  obtain ⟨logged, built, -, nodes, -⟩ := ofConfig_accepts valid
  have made : logged.value.Made := .configured built
  refine ⟨logged, built, ⟨(Reachable.made made).sound, ?_⟩, nodes, made.unused.queue⟩
  intro node listed
  rw [nodes] at listed
  obtain ⟨entry, -, rfl⟩ := List.mem_map.1 listed
  rfl

namespace Installs

variable {config : Config} {start : Hub}

theorem undriven (installs : Installs config start) : start.Undriven := by
  intro node listed other within
  rw [installs.nodes] at listed within
  obtain ⟨entry, -, rfl⟩ := List.mem_map.1 listed
  obtain ⟨second, -, rfl⟩ := List.mem_map.1 within
  intro same
  exact second.leaf.kind_ne (Option.some.inj same).symm

theorem off (installs : Installs config start) : ∀ node ∈ start.nodes, node.session = none := by
  intro node listed
  rw [installs.nodes] at listed
  obtain ⟨entry, -, rfl⟩ := List.mem_map.1 listed
  rfl

/-- A node keeps the nature that its entry gave it. -/
theorem entry (installs : Installs config start) {commands : List (Int × Command)}
    (controls : ∀ entry ∈ commands, entry.2.Controls) {node : Node}
    (listed : node ∈ (start.run commands).nodes) :
    ∃ entry ∈ config.sensors, node.bare = (installed config entry).bare := by
  obtain ⟨old, known, alike⟩ := exists_alike (installs.fit.run_bare controls) listed
  rw [installs.nodes] at known
  obtain ⟨entry, within, rfl⟩ := List.mem_map.1 known
  exact ⟨entry, within, alike.symm⟩

end Installs

/-- An event is what a sensor of a configuration made of a sample that was
delivered after some commands, in a session that began no later than the sample. -/
structure Stems (config : Config) (start : Hub) (earlier : List (Int × Command)) (sample : Sample)
    (event : Event) : Prop where
  timestamp : event.timestamp = sample.timestamp
  enabled : (start.run earlier).enabled event.sensor = true
  since : ∃ since, start.EnabledSince event.sensor earlier since ∧ since ≤ sample.timestamp
  /-- a sensor with the event's handle, of whose kind are its number, its shape and
  its values: those of the kind's slot, and zeros behind -/
  entry : ∃ entry ∈ config.sensors, entry.handle = event.sensor ∧
    event.kindId = entry.leaf.traits.id ∧ event.shape = entry.leaf.traits.shape ∧
    event.data.values =
      (sample.values.values.drop entry.leaf.traits.start).take entry.leaf.traits.size ++
        List.replicate (16 - entry.leaf.traits.size) ⟨0⟩

theorem Installs.stems {config : Config} {start : Hub} (installs : Installs config start)
    {earlier : List (Int × Command)} (controls : ∀ entry ∈ earlier, entry.2.Controls) {node : Node}
    (listed : node ∈ (start.run earlier).nodes) {sample : Sample}
    (due : (node.receive sample).verdict sample.period = .due) :
    Stems config start earlier sample (node.receive sample).event := by
  obtain ⟨entry, within, nature⟩ := installs.entry controls listed
  obtain ⟨session, begun, timely⟩ := Node.session_of_due due
  have begun : node.session = some session := begun
  have made : (node.receive sample).event = entry.report sample := by
    rw [← Node.receive_bare_event, nature, Node.receive_bare_event]
    exact installed_receive config entry sample
  have named : (node.receive sample).event.sensor = node.handle :=
    ((installs.fit.run controls).sound.nodes node listed).sensor
  constructor
  case timestamp => rfl
  case enabled =>
      rw [named, enabled_of_session (installs.fit.run controls).sound.handles listed, begun]
      rfl
  case since =>
      refine ⟨session.since, ?_, timely⟩
      rw [named]
      exact enabled_since installs.fit installs.off controls listed begun
  case entry =>
      refine ⟨entry, within, ?_⟩
      rw [made]
      exact ⟨rfl, rfl, rfl, rfl⟩

/-- A data event that was recorded stems from the delivery that recorded it. -/
theorem Installs.recorded {config : Config} {start : Hub} (installs : Installs config start)
    {commands : List (Int × Command)} (controls : ∀ entry ∈ commands, entry.2.Controls) {call : Nat}
    {event : Event} (listed : (call, event) ∈ start.recorded 0 commands) {handle : Int}
    (reports : event.reports handle = true) :
    ∃ now sample, commands[call]? = some (now, .deliver .accelGyroFusion sample) ∧
      Stems config start (commands.take call) sample event := by
  obtain ⟨steps, now, command, placed, found, within⟩ := mem_recorded listed
  obtain rfl : call = steps := by omega
  have control : command.Controls := controls _ (List.mem_of_getElem? found)
  have earlier : ∀ entry ∈ commands.take call, entry.2.Controls :=
    fun entry within => controls entry (List.mem_of_mem_take within)
  have undriven := installs.undriven.of_bare (installs.fit.run_bare earlier)
  have own : event ∈ ((start.run (commands.take call)).accepted now command).filter
      (·.reports handle) := List.mem_filter.2 ⟨within, reports⟩
  rcases accepted_reports (installs.fit.run earlier) undriven now control handle
    with none | ⟨source, sample, node, rfl, known, -, triggered, due, one⟩
  · rw [none] at own
    cases own
  · rw [one, List.mem_singleton] at own
    obtain ⟨entry, -, nature⟩ := installs.entry earlier known
    obtain rfl : SensorKind.accelGyroFusion = source := by
      rw [← Node.triggerKind_bare, nature] at triggered
      exact Option.some.inj triggered
    rw [own]
    exact ⟨now, sample, found, installs.stems earlier known due⟩

/-- **Every data event that is returned stems from a delivery of its own.** -/
theorem events_stem {config : Config} (valid : config.validate = .ok ()) :
    ∃ logged, ofConfig config = .ok logged ∧
      ∀ commands : List (Int × Command), (∀ entry ∈ commands, entry.2.Controls) → ∀ handle : Int,
        ∃ calls : List Nat, calls.Pairwise (· < ·) ∧
          List.Forall₂ (fun got call => call < got.1 ∧
              ∃ now sample, commands[call]? = some (now, .deliver .accelGyroFusion sample) ∧
                Stems config logged.value (commands.take call) sample got.2)
            ((logged.value.returned 0 commands).filter (·.2.reports handle)) calls := by
  obtain ⟨logged, built, installs⟩ := ofConfig_installs valid
  refine ⟨logged, built, ?_⟩
  intro commands controls handle
  have waiting : ([] : List (Nat × Event)).map Prod.snd = logged.value.pipe.queue := by
    rw [installs.queue]
    rfl
  have none : ∀ entry ∈ ([] : List (Nat × Event)), entry.1 < 0 := by simp
  obtain ⟨front, ahead, matched⟩ := returned_recorded installs.fit controls waiting none
  rw [List.nil_append] at ahead
  have own : List.Forall₂ (fun got origin => origin.1 < got.1 ∧ got.2 = origin.2)
      ((logged.value.returned 0 commands).filter (·.2.reports handle))
      (front.filter (·.2.reports handle)) := by
    refine List.rel_filter ?_ matched
    rintro got origin ⟨-, same⟩
    show got.2.reports handle = true ↔ origin.2.reports handle = true
    rw [same]
  have stems : ∀ origin ∈ front.filter (·.2.reports handle),
      ∃ now sample, commands[origin.1]? = some (now, .deliver .accelGyroFusion sample) ∧
        Stems config logged.value (commands.take origin.1) sample origin.2 := by
    intro origin listed
    obtain ⟨within, reports⟩ := List.mem_filter.1 listed
    exact installs.recorded controls (ahead.subset within) reports
  refine ⟨(front.filter (·.2.reports handle)).map Prod.fst, ?_, ?_⟩
  · have ascend := recorded_ascend installs.fit installs.undriven controls 0 handle
    exact List.pairwise_map.2 (ascend.sublist (ahead.filter _).sublist)
  · rw [List.forall₂_map_right_iff]
    refine ((List.forall₂_and_left _ _).2 ⟨stems, own.flip⟩).flip.imp ?_
    rintro got origin ⟨stem, earlier, same⟩
    rw [same]
    exact ⟨earlier, stem⟩

/-- Two leaves of one provider. -/
def pairConfig : Config :=
  { sensors := [⟨"orientation", 1, .gameRotationVector⟩, ⟨"linear", 3, .linearAcceleration⟩] }

/-- A sample of ten different values. -/
def tenValues (timestamp : Int) : Sample :=
  ⟨.ofList ((List.range 10).map fun i => ⟨.ofNat i⟩), timestamp, 100000000⟩

/-- The second leaf is enabled, fed once too early and twice in time, and read in between. -/
def pairRun : List (Int × Command) :=
  [ (100, .switch 3 true),
    (100, .deliver .accelGyroFusion (tenValues 90)),
    (130, .deliver .accelGyroFusion (tenValues 120)),
    (140, .switch 1 true),
    (150, .deliver .accelGyroFusion (tenValues 200000120)),
    (160, .poll 2),
    (170, .flush 3),
    (180, .switch 3 false),
    (190, .poll 5) ]

/-- What the second leaf makes of such a sample: the eighth value and the two after it. -/
def linearReport (timestamp : Int) : Event :=
  ⟨3, 10, timestamp, ⟨[⟨7⟩, ⟨8⟩, ⟨9⟩] ++ List.replicate 13 ⟨0⟩, rfl⟩, .axis3, .data⟩

/-- Its events are those of the third and the fifth command. -/
theorem pairRun_stems : pairConfig.validate = .ok () ∧ (∀ entry ∈ pairRun, entry.2.Controls) ∧
    ∃ logged, ofConfig pairConfig = .ok logged ∧
      (∃ calls : List Nat, calls.Pairwise (· < ·) ∧
        List.Forall₂ (fun got call => call < got.1 ∧
            ∃ now sample, pairRun[call]? = some (now, .deliver .accelGyroFusion sample) ∧
              Stems pairConfig logged.value (pairRun.take call) sample got.2)
          ((logged.value.returned 0 pairRun).filter (·.2.reports 3)) calls) ∧
      (logged.value.returned 0 pairRun).filter (·.2.reports 3) =
        [(5, linearReport 120), (8, linearReport 200000120)] := by
  have valid : pairConfig.validate = .ok () := by decide
  have controls : ∀ entry ∈ pairRun, entry.2.Controls := by simp [pairRun, Command.Controls]
  obtain ⟨logged, built, stems⟩ := events_stem valid
  have events : (ofConfig pairConfig).map (fun logged =>
      (logged.value.returned 0 pairRun).filter (·.2.reports 3)) =
      .ok [(5, linearReport 120), (8, linearReport 200000120)] := by decide
  rw [built] at events
  exact ⟨valid, controls, logged, built, stems pairRun controls 3, Except.ok.inj events⟩

end Hub

end FusionSensors
