/-
# FusionSensors.Proofs.Isolation -- what others do is not seen in a stream

Two runs of a hub deliver the same samples and control one sensor in the same
way; what they do to other sensors, and when they read, may differ. As long as
no write finds the pipe full, that sensor writes the same events in both
(`run_isolated`).

A command that does not concern the sensor writes no event of it and leaves
what the sensor depends on (`perform_apart`); one that does concern it does the
same in both runs (`perform_together`). The latter holds of a delivery because
an enabled node has the same turns whoever else is enabled: every node on a
walk to it is needed by it and so takes part, and who else takes part does not
change the order of those walks (`turns_at`).
-/
import FusionSensors.Proofs.Follow
import FusionSensors.Proofs.Lines

namespace FusionSensors.Hub

set_option autoImplicit false

/-! ## Turns do not depend on who else takes part -/

theorem arrival_everyone (roster : Roster) (sample : Sample) :
    arrival (everyone roster) sample = arrival roster sample := by
  have same : onward (everyone roster) = onward roster := by
    funext place sample
    unfold onward
    rw [everyone, List.getElem?_map]
    cases roster[place]? <;> rfl
  funext walk
  simp only [arrival, carried, same]

/-- The samples that a node would get of a delivery if all nodes took part. -/
def reaching (hub : Hub) (place : Nat) (source : SensorKind) (sample : Sample) : List Sample :=
  samplesAt place (schedule (everyone hub.roster) (maxCascadeDepth + 1) source sample)

/-- An enabled node gets the samples that it would get if all nodes took part. -/
theorem turns_at {hub : Hub} {place : Nat} {node : Node} (found : hub.nodes[place]? = some node)
    (on : node.isEnabled = true) (source : SensorKind) (sample : Sample) :
    samplesAt place (hub.turns source sample) = hub.reaching place source sample := by
  rw [reaching, turns, schedule, schedule, arrival_everyone, routes_filter, samplesAt, samplesAt,
    List.filter_map, List.filter_map, List.filter_filter]
  congr 2
  apply List.filter_congr
  intro walk listed
  obtain ⟨walks, short⟩ := mem_routes.1 listed
  by_cases ends : (arrival hub.roster sample walk).place = place
  · have last := place_arrival hub.roster sample walks.ne_nil
    rw [ends] at last
    have taking : walk.all (joined hub.roster) = true := by
      rw [List.all_eq_true]
      intro passed within
      have needed := walks.needed last (hub.roster_nodes.symm ▸ found) on passed within
      rw [roster_nodes] at needed
      obtain ⟨known, listed⟩ := needed.known
      rw [joined, roster_active.2 ⟨listed, needed.mono short⟩]
      rfl
    rw [taking, Bool.and_true]
  · simp [ends]

theorem everyone_roster (hub : Hub) : everyone hub.roster = hub.nodes.map (·, true) := by
  rw [← hub.roster_nodes, List.map_map]
  rfl

/-- What a node would get if all nodes took part depends on their natures only. -/
theorem reaching_congr {hub other : Hub} (same : hub.nodes.map Node.bare = other.nodes.map Node.bare) :
    hub.reaching = other.reaching := by
  have outlined : ∀ hub : Hub, outline (everyone hub.roster) = (hub.nodes.map Node.bare).map (·, true) := by
    intro hub
    rw [everyone_roster, outline, List.map_map, List.map_map]
    rfl
  funext place source sample
  rw [reaching, reaching, ← schedule_outline, outlined, same, ← outlined, schedule_outline]

/-! ## Commands that concern a sensor -/

/-- Whether a command adds no sensor. -/
def Command.Controls : Command → Prop
  | .register _ | .registerProvider _ => False
  | _ => True

/-- Whether a command may matter to what a sensor writes. -/
def Command.concerns (handle : Int) : Command → Bool
  | .deliver _ _ => true
  | .switch other _ | .setPeriod other _ | .flush other => other == handle
  | .register _ | .registerProvider _ | .poll _ => false

/-- No write of a sequence of commands finds the pipe full: no event is noted as
lost for that, and no flush is refused for it. -/
structure Unfilled (hub : Hub) (commands : List (Int × Command)) : Prop where
  events : ∀ name, .eventLost name ∉ hub.log commands
  marks : .refused .pipeFull ∉ hub.replies commands

/-- Whether a note tells of anything but an event for which there was no room. -/
def lossless : Note → Bool
  | .eventLost _ => false
  | _ => true

instance (hub : Hub) (commands : List (Int × Command)) : Decidable (hub.Unfilled commands) :=
  decidable_of_iff ((hub.log commands).all lossless = true ∧
      .refused .pipeFull ∉ hub.replies commands) <| by
    constructor
    · rintro ⟨events, marks⟩
      refine ⟨?_, marks⟩
      intro name lost
      cases List.all_eq_true.1 events _ lost
    · rintro ⟨events, marks⟩
      refine ⟨List.all_eq_true.2 ?_, marks⟩
      intro note listed
      cases note <;> first | rfl | exact absurd listed (events _)

theorem Command.Controls.fresh {command : Command} (controls : command.Controls) :
    command.Fresh := by
  cases command with
  | register node => exact controls.elim
  | registerProvider | switch | setPeriod | flush | deliver | poll => trivial

theorem unfilled_append {hub : Hub} {first second : List (Int × Command)} :
    hub.Unfilled (first ++ second) ↔ hub.Unfilled first ∧ (hub.run first).Unfilled second := by
  constructor
  · rintro ⟨events, marks⟩
    simp only [log_append, replies_append, List.mem_append, not_or] at events marks
    exact ⟨⟨fun name => (events name).1, marks.1⟩, ⟨fun name => (events name).2, marks.2⟩⟩
  · rintro ⟨first, second⟩
    refine ⟨?_, ?_⟩
    · intro name
      rw [log_append, List.mem_append, not_or]
      exact ⟨first.events name, second.events name⟩
    · rw [replies_append, List.mem_append, not_or]
      exact ⟨first.marks, second.marks⟩

/-! ## Hubs that a sensor cannot tell apart -/

/-- What the events of a sensor depend on is the same in two hubs. -/
structure Alike (handle : Int) (hub other : Hub) : Prop where
  bare : hub.nodes.map Node.bare = other.nodes.map Node.bare
  seen : (hub.node? handle).map Node.seen = (other.node? handle).map Node.seen
  period : hub.defaultPeriod = other.defaultPeriod

/-- A sound hub whose nodes all forward. -/
structure Fit (hub : Hub) : Prop where
  sound : hub.Sound
  forwards : ∀ node ∈ hub.nodes, node.forwards = true

theorem Fit.ready {hub : Hub} (fit : hub.Fit) : Ready hub.nodes :=
  ⟨fit.forwards, fit.sound.nodes, fit.sound.handles⟩

theorem Fit.perform {hub : Hub} (fit : hub.Fit) (now : Int) {command : Command}
    (controls : command.Controls) : (hub.perform now command).value.1.Fit := by
  have effect := hub.perform_effect now command
  refine ⟨effect.sound fit.sound controls.fresh, ?_⟩
  obtain ⟨added, moves, new⟩ := effect.moves fit.sound.handles
  intro node listed
  rcases moves.node listed with ⟨old, known, steps⟩ | newcomer
  · rw [steps.forwards, fit.forwards old known]
  · obtain ⟨built, rfl, -⟩ := new node newcomer
    exact controls.elim

namespace Alike

variable {handle : Int} {hub other third : Hub}

theorem refl (handle : Int) (hub : Hub) : Alike handle hub hub := ⟨rfl, rfl, rfl⟩

theorem symm (alike : Alike handle hub other) : Alike handle other hub :=
  ⟨alike.bare.symm, alike.seen.symm, alike.period.symm⟩

theorem trans (first : Alike handle hub other) (second : Alike handle other third) :
    Alike handle hub third :=
  ⟨first.bare.trans second.bare, first.seen.trans second.seen, first.period.trans second.period⟩

/-- A hub that differs from another one in its pipe only cannot be told from it. -/
theorem of_nodes (nodes : other.nodes = hub.nodes) (period : other.defaultPeriod = hub.defaultPeriod) :
    Alike handle hub other :=
  ⟨by rw [nodes], by rw [node?, node?, nodes], period.symm⟩

/-- The sensor is in both hubs or in neither. -/
theorem found (alike : Alike handle hub other) :
    (hub.node? handle = none ∧ other.node? handle = none) ∨
      ∃ node twin, hub.node? handle = some node ∧ other.node? handle = some twin ∧
        node.seen = twin.seen := by
  have seen := alike.seen
  cases found : hub.node? handle with
  | none =>
      rw [found, Option.map_none, eq_comm, Option.map_eq_none_iff] at seen
      exact .inl ⟨rfl, seen⟩
  | some node =>
      rw [found, Option.map_some, eq_comm, Option.map_eq_some_iff] at seen
      obtain ⟨twin, reached, same⟩ := seen
      exact .inr ⟨node, twin, rfl, reached, same.symm⟩

/-- It stands at the same place in both: natures are alike place by place, and
handles are distinct. -/
theorem place (alike : Alike handle hub other) (distinct : (other.nodes.map Node.handle).Nodup)
    {place : Nat} {node twin : Node} (placed : hub.nodes[place]? = some node)
    (reached : other.node? node.handle = some twin) : other.nodes[place]? = some twin := by
  have nature : other.nodes[place]?.map Node.bare = some node.bare := by
    rw [← List.getElem?_map, ← alike.bare, List.getElem?_map, placed, Option.map_some]
  obtain ⟨there, stands, nature⟩ := Option.map_eq_some_iff.1 nature
  have named := node?_eq distinct (List.mem_of_getElem? stands)
  rw [Node.handle_eq_of_bare nature, reached] at named
  rw [stands, named]

theorem isEnabled (alike : Alike handle hub other) :
    (hub.node? handle).any Node.isEnabled = (other.node? handle).any Node.isEnabled := by
  rcases alike.found with ⟨missing, missing'⟩ | ⟨node, twin, found, reached, same⟩
  · rw [missing, missing']
  · rw [found, reached, Option.any_some, Option.any_some, Node.isEnabled_congr same]

end Alike

/-! ## Control of one node -/

theorem readied_bare (period : Int) (on : Bool) (now : Int) (node : Node) :
    (readied period on now node).bare = node.bare := by
  rw [readied, Node.switch_bare]
  split <;> rfl

theorem readied_congr {node other : Node} (same : node.seen = other.seen) (period : Int) (on : Bool)
    (now : Int) : (readied period on now node).seen = (readied period on now other).seen := by
  have periods : node.period = other.period :=
    congrArg Gate.requested (Node.seen_eq.1 same).2.1
  rw [readied, readied, periods]
  split
  · exact Node.switch_congr (Node.paced_congr same period) on now
  · exact Node.switch_congr same on now

/-- A sensor does not see what is changed at another one. -/
theorem change_apart {hub : Hub} (distinct : (hub.nodes.map Node.handle).Nodup)
    {handle other : Int} (apart : other ≠ handle) {f : Node → Node}
    (bare : ∀ node, (f node).bare = node.bare) : Alike handle hub (hub.change other f) := by
  cases found : hub.node? other with
  | none =>
      rw [change, found, Option.elim_none]
      exact .refl handle hub
  | some node =>
      obtain ⟨known, same⟩ := node?_some found
      have kept := Node.handle_eq_of_bare (bare node)
      rw [change, found, Option.elim_some]
      refine ⟨(put_map distinct known kept Node.bare (bare node)).symm, ?_, rfl⟩
      rw [node?_put, if_neg (by rwa [kept, same])]

/-- The same change at a sensor keeps hubs alike. -/
theorem change_together {hub other : Hub} {handle : Int} (alike : Alike handle hub other)
    (distinct : (hub.nodes.map Node.handle).Nodup) (also : (other.nodes.map Node.handle).Nodup)
    {f : Node → Node} (bare : ∀ node, (f node).bare = node.bare)
    (congr : ∀ node twin, node.seen = twin.seen → (f node).seen = (f twin).seen) :
    Alike handle (hub.change handle f) (other.change handle f) := by
  rcases alike.found with ⟨missing, missing'⟩ | ⟨node, twin, found, reached, same⟩
  · rw [change, change, missing, missing', Option.elim_none, Option.elim_none]
    exact alike
  · obtain ⟨known, rfl⟩ := node?_some found
    obtain ⟨listed, handles⟩ := node?_some reached
    have kept := Node.handle_eq_of_bare (bare node)
    have stayed := Node.handle_eq_of_bare (bare twin)
    rw [change, change, found, reached, Option.elim_some, Option.elim_some]
    refine ⟨?_, ?_, alike.period⟩
    · rw [put_map distinct known kept Node.bare (bare node),
        put_map also listed stayed Node.bare (bare twin), alike.bare]
    · rw [node?_put, node?_put, if_pos kept, if_pos (stayed.trans handles), found, reached]
      exact congrArg some (congr node twin same)

/-! ## What a delivery is to one node -/

/-- What a cycle keeps of a node, a delivery keeps of all nodes. -/
theorem deliver_map {α : Type} (f : Node → α)
    (kept : ∀ (node : Node) (pipe : Pipe) sample, f (node.cycle pipe sample).value.1 = f node)
    (hub : Hub) (source : SensorKind) (sample : Sample) :
    (hub.deliver source sample).value.1.nodes.map f = hub.nodes.map f := by
  obtain ⟨turns, delivered⟩ := hub.deliver_some_turns source sample
  rw [delivered]
  exact takeTurns_map f kept turns (hub.nodes, hub.pipe)

theorem deliver_bare (hub : Hub) (source : SensorKind) (sample : Sample) :
    (hub.deliver source sample).value.1.nodes.map Node.bare = hub.nodes.map Node.bare :=
  deliver_map Node.bare Node.cycle_bare hub source sample

/-- No command but a registration changes the nature of a node or the providers. -/
theorem Effect.bare {hub after : Hub} {now : Int} {command : Command} {reply : Reply}
    (effect : hub.Effect now command after reply) (distinct : (hub.nodes.map Node.handle).Nodup)
    (controls : command.Controls) :
    after.nodes.map Node.bare = hub.nodes.map Node.bare ∧ after.providers = hub.providers := by
  cases effect with
  | registered | provided => exact controls.elim
  | refused | flushed | polled => exact ⟨rfl, rfl⟩
  | delivered source sample => exact ⟨hub.deliver_bare source sample, rfl⟩
  | @switched node paced handle on found ready =>
      have same : (paced.switch on now).value.bare = node.bare := by
        rw [Node.switch_bare]
        rcases ready with ⟨-, rfl⟩ | ⟨-, set, accepted, rfl⟩
        · rfl
        · exact Node.setPeriod_bare accepted
      exact ⟨put_map distinct (node?_some found).1 (Node.handle_eq_of_bare same) Node.bare same, rfl⟩
  | @paced node handle period set found accepted =>
      have same := Node.setPeriod_bare accepted
      exact ⟨put_map distinct (node?_some found).1 (Node.handle_eq_of_bare same) Node.bare same, rfl⟩

/-- A delivery is to a node what the samples are that reach it, whether or not
it is enabled and whoever else is. -/
theorem deliver_follow {hub : Hub} (fit : hub.Fit) (now : Int) {source : SensorKind} {sample : Sample}
    (unfilled : ∀ name, .eventLost name ∉ (hub.deliver source sample).notes)
    {place : Nat} {node : Node} (found : hub.nodes[place]? = some node) :
    ((hub.deliver source sample).value.1.node? node.handle).map Node.seen =
        some (node.follow (hub.reaching place source sample)).1 ∧
      (hub.accepted now (.deliver source sample)).filter (·.sensor == node.handle) =
        (node.follow (hub.reaching place source sample)).2 := by
  have ready := fit.ready
  have kept : ∀ name, .eventLost name ∉
      (takeTurns (hub.turns source sample) (hub.nodes, Journal.mk hub.pipe [])).notes := by
    intro name lost
    have piped := congrArg Logged.notes
      (takeTurns_alike Journal.alike_pipe (hub.turns source sample) hub.nodes ⟨hub.pipe, []⟩)
    rw [Logged.notes_map] at piped
    refine unfilled name ((hub.deliver_turns source sample ready.forwards).2.subset ?_)
    simpa [afterTurns, piped] using lost
  have samples : node.follow (samplesAt place (hub.turns source sample)) =
      node.follow (hub.reaching place source sample) := by
    cases on : node.isEnabled with
    | true => rw [turns_at found on]
    | false =>
        have off : node.session = none := by simpa [Node.isEnabled] using on
        rw [Node.follow_disabled off, Node.follow_disabled off]
  obtain ⟨after, last, seen, written⟩ := takeTurns_follow (hub.turns source sample)
    (hub.nodes, Journal.mk hub.pipe []) ready fit.sound.pipe.reading kept found
  rw [hub.deliver_journal now source sample ready.forwards []] at last written
  have natures := congrArg (·[place]?) (hub.deliver_bare source sample)
  simp only [List.getElem?_map, last, found, Option.map_some, Option.some.injEq] at natures
  have later : (hub.perform now (.deliver source sample)).value.1.Fit := fit.perform now trivial
  rw [perform, Logged.value_map] at later
  have named := node?_eq later.sound.handles (List.mem_of_getElem? last)
  rw [Node.handle_eq_of_bare natures] at named
  rw [samples] at seen written
  simp only [List.nil_append, List.filter_nil] at written
  rw [← seen, ← Option.map_some, ← named]
  exact ⟨rfl, written⟩

/-- Even if the pipe is full, a delivery writes nothing of a node but what follows
from its turns. -/
theorem deliver_part {hub : Hub} (ready : Ready hub.nodes) (now : Int) (source : SensorKind)
    (sample : Sample) {place : Nat} {node : Node} (found : hub.nodes[place]? = some node) :
    ((hub.accepted now (.deliver source sample)).filter (·.sensor == node.handle)).Sublist
      (node.follow (samplesAt place (hub.turns source sample))).2 := by
  obtain ⟨own, among, written⟩ := takeTurns_part (hub.turns source sample)
    (hub.nodes, Journal.mk hub.pipe []) ready found
  rw [hub.deliver_journal now source sample ready.forwards []] at written
  simp only [List.nil_append, List.filter_nil] at written
  rwa [written]

/-- A delivery writes no event of a sensor that is not there. -/
theorem deliver_unknown {hub : Hub} (ready : Ready hub.nodes) (now : Int) (source : SensorKind)
    (sample : Sample) {handle : Int} (unknown : hub.node? handle = none) :
    (hub.deliver source sample).value.1.node? handle = none ∧
      (hub.accepted now (.deliver source sample)).filter (·.sensor == handle) = [] := by
  have absent := node?_eq_none.1 unknown
  have handles := handles_steps
    (takeTurns_steps (hub.turns source sample) (hub.nodes, Journal.mk hub.pipe []))
  obtain ⟨more, grown, reported⟩ := takeTurns_accepted (hub.turns source sample)
    (hub.nodes, Journal.mk hub.pipe []) ready
  rw [hub.deliver_journal now source sample ready.forwards []] at handles grown
  refine ⟨node?_eq_none.2 (by rwa [handles]), ?_⟩
  simp only [List.nil_append] at grown
  rw [grown, List.filter_eq_nil_iff]
  intro event listed own
  have sensor : event.sensor = handle := by simpa using own
  exact absent (sensor ▸ (reported event listed).2)

/-- The same delivery keeps hubs alike for a sensor, and writes the same events of it. -/
theorem deliver_together {hub other : Hub} (fit : hub.Fit) (also : other.Fit) {handle : Int}
    (alike : Alike handle hub other) (now : Int) {source : SensorKind} {sample : Sample}
    (unfilled : ∀ name, .eventLost name ∉ (hub.deliver source sample).notes)
    (unfilled' : ∀ name, .eventLost name ∉ (other.deliver source sample).notes) :
    Alike handle (hub.deliver source sample).value.1 (other.deliver source sample).value.1 ∧
      (hub.accepted now (.deliver source sample)).filter (·.sensor == handle) =
        (other.accepted now (.deliver source sample)).filter (·.sensor == handle) := by
  have bare : (hub.deliver source sample).value.1.nodes.map Node.bare =
      (other.deliver source sample).value.1.nodes.map Node.bare := by
    rw [deliver_bare, deliver_bare, alike.bare]
  have period : (hub.deliver source sample).value.1.defaultPeriod =
      (other.deliver source sample).value.1.defaultPeriod := by
    rw [deliver, deliver, Logged.value_bind, Logged.value_bind, Logged.value_pure, Logged.value_pure]
    exact alike.period
  rcases alike.found with ⟨missing, missing'⟩ | ⟨node, twin, found, reached, same⟩
  · obtain ⟨gone, silent⟩ := deliver_unknown fit.ready now source sample missing
    obtain ⟨gone', silent'⟩ := deliver_unknown also.ready now source sample missing'
    exact ⟨⟨bare, by rw [gone, gone'], period⟩, by rw [silent, silent']⟩
  · obtain ⟨known, rfl⟩ := node?_some found
    obtain ⟨place, placed⟩ := List.mem_iff_getElem?.1 known
    have placed' := alike.place also.sound.handles placed reached
    obtain ⟨seen, written⟩ := deliver_follow fit now unfilled placed
    obtain ⟨seen', written'⟩ := deliver_follow also now unfilled' placed'
    rw [(node?_some reached).2, ← reaching_congr alike.bare, ← Node.follow_congr same]
      at seen' written'
    exact ⟨⟨bare, by rw [seen, seen'], period⟩, by rw [written, written']⟩

/-! ## One command -/

/-- **A command that does not concern a sensor writes no event of it**, and
leaves what its events depend on. -/
theorem perform_apart {hub : Hub} (fit : hub.Fit) (now : Int) {command : Command}
    (controls : command.Controls) {handle : Int} (apart : command.concerns handle = false) :
    Alike handle hub (hub.perform now command).value.1 ∧
      (hub.accepted now command).filter (·.sensor == handle) = [] := by
  have distinct := fit.sound.handles
  cases command with
  | register | registerProvider => exact controls.elim
  | deliver source sample => cases apart
  | poll max => exact ⟨.of_nodes rfl rfl, rfl⟩
  | switch other on =>
      have apart : other ≠ handle := by simpa [Command.concerns] using apart
      rw [perform_switch fit.sound.period]
      exact ⟨change_apart distinct apart (readied_bare _ on now), rfl⟩
  | setPeriod other period =>
      have apart : other ≠ handle := by simpa [Command.concerns] using apart
      rw [perform_setPeriod]
      refine ⟨?_, rfl⟩
      split
      · exact change_apart distinct apart fun _ => rfl
      · exact .refl handle hub
  | flush other =>
      have apart : other ≠ handle := by simpa [Command.concerns] using apart
      have period := (hub.perform_effect now (.flush other)).defaultPeriod
      rcases hub.flush_accepted now other
        with ⟨-, -, -, -, written, nodes, -⟩ | ⟨fault, refused, unwritten, -⟩
      · refine ⟨.of_nodes nodes period, ?_⟩
        rw [written, List.filter_cons_of_neg (by simpa [Event.flushMark] using apart), List.filter_nil]
      · refine ⟨?_, ?_⟩
        · rw [refused]
          exact .refl handle hub
        · rw [unwritten, List.filter_nil]

/-- A flush leaves the nodes, and writes its mark if the node is enabled. -/
theorem perform_flush {hub : Hub} (fit : hub.Fit) (now handle : Int)
    (unfilled : (hub.perform now (.flush handle)).value.2 ≠ .refused .pipeFull) :
    (hub.perform now (.flush handle)).value.1.nodes = hub.nodes ∧
      hub.accepted now (.flush handle) =
        if (hub.node? handle).any Node.isEnabled then [.flushMark handle now] else [] := by
  rcases hub.flush_accepted now handle
    with ⟨node, found, on, -, written, nodes, -⟩ | ⟨fault, refused, unwritten, only⟩
  · exact ⟨nodes, by rw [written, found, Option.any_some, on, if_pos rfl]⟩
  · refine ⟨by rw [refused], ?_⟩
    rw [unwritten, if_neg]
    intro enabled
    obtain ⟨node, found, on⟩ := (Option.any_eq_true _ _).1 enabled
    have full := Pipe.write_error fit.sound.pipe.reading (only node found on)
    rw [refused, full] at unfilled
    exact unfilled rfl

/-- **A command that concerns a sensor is to it the same in hubs that it cannot
tell apart.** -/
theorem perform_together {hub other : Hub} (fit : hub.Fit) (also : other.Fit) {handle : Int}
    (alike : Alike handle hub other) (now : Int) {command : Command}
    (concerns : command.concerns handle = true) (unfilled : hub.Unfilled [(now, command)])
    (unfilled' : other.Unfilled [(now, command)]) :
    Alike handle (hub.perform now command).value.1 (other.perform now command).value.1 ∧
      (hub.accepted now command).filter (·.sensor == handle) =
        (other.accepted now command).filter (·.sensor == handle) := by
  have distinct := fit.sound.handles
  have distinct' := also.sound.handles
  cases command with
  | register | registerProvider | poll => cases concerns
  | switch own on =>
      obtain rfl : own = handle := by simpa [Command.concerns] using concerns
      rw [perform_switch fit.sound.period, perform_switch also.sound.period, alike.period]
      refine ⟨change_together alike distinct distinct' (readied_bare _ on now) ?_, rfl⟩
      exact fun node twin same => readied_congr same _ on now
  | setPeriod own period =>
      obtain rfl : own = handle := by simpa [Command.concerns] using concerns
      rw [perform_setPeriod, perform_setPeriod]
      refine ⟨?_, rfl⟩
      split
      · refine change_together alike distinct distinct' (fun _ => rfl) ?_
        exact fun node twin same => Node.paced_congr same period
      · exact alike
  | flush own =>
      obtain rfl : own = handle := by simpa [Command.concerns] using concerns
      have sent : (hub.perform now (.flush own)).value.2 ≠ .refused .pipeFull :=
        fun full => unfilled.marks (full ▸ List.mem_singleton_self _)
      have sent' : (other.perform now (.flush own)).value.2 ≠ .refused .pipeFull :=
        fun full => unfilled'.marks (full ▸ List.mem_singleton_self _)
      obtain ⟨nodes, written⟩ := perform_flush fit now own sent
      obtain ⟨nodes', written'⟩ := perform_flush also now own sent'
      have period := (hub.perform_effect now (.flush own)).defaultPeriod
      have period' := (other.perform_effect now (.flush own)).defaultPeriod
      refine ⟨?_, ?_⟩
      · exact (Alike.of_nodes nodes period).symm.trans (alike.trans (.of_nodes nodes' period'))
      · rw [written, written', alike.isEnabled]
  | deliver source sample =>
      have kept : ∀ name, .eventLost name ∉ (hub.deliver source sample).notes :=
        fun name lost => unfilled.events name (by simpa [log, perform] using lost)
      have kept' : ∀ name, .eventLost name ∉ (other.deliver source sample).notes :=
        fun name lost => unfilled'.events name (by simpa [log, perform] using lost)
      exact deliver_together fit also alike now kept kept'

/-! ## Two runs -/

theorem Fit.run {hub : Hub} (fit : hub.Fit) {commands : List (Int × Command)}
    (controls : ∀ entry ∈ commands, entry.2.Controls) : (hub.run commands).Fit := by
  induction commands generalizing hub with
  | nil => exact fit
  | cons entry rest ih =>
      have first := fit.perform entry.1 (controls entry List.mem_cons_self)
      exact ih first fun later within => controls later (List.mem_cons_of_mem _ within)

theorem Fit.run_bare {hub : Hub} (fit : hub.Fit) {commands : List (Int × Command)}
    (controls : ∀ entry ∈ commands, entry.2.Controls) :
    (hub.run commands).nodes.map Node.bare = hub.nodes.map Node.bare := by
  induction commands generalizing hub with
  | nil => rfl
  | cons entry rest ih =>
      have first := controls entry List.mem_cons_self
      have effect := hub.perform_effect entry.1 entry.2
      have others := ih (fit.perform entry.1 first)
        fun later within => controls later (List.mem_cons_of_mem _ within)
      exact others.trans (effect.bare fit.sound.handles first).1

/-- Commands that do not concern a sensor write no event of it, however many they are. -/
theorem run_apart {hub : Hub} (fit : hub.Fit) {handle : Int} {commands : List (Int × Command)}
    (controls : ∀ entry ∈ commands, entry.2.Controls)
    (apart : ∀ entry ∈ commands, entry.2.concerns handle = false) :
    Alike handle hub (hub.run commands) ∧
      (hub.journal commands).filter (·.sensor == handle) = [] := by
  induction commands generalizing hub with
  | nil => exact ⟨.refl handle hub, rfl⟩
  | cons entry rest ih =>
      obtain ⟨now, command⟩ := entry
      have control : command.Controls := controls (now, command) List.mem_cons_self
      obtain ⟨alike, silent⟩ := perform_apart fit now control (apart (now, command) List.mem_cons_self)
      obtain ⟨others, quiet⟩ := ih (fit.perform now control)
        (fun later within => controls later (List.mem_cons_of_mem _ within))
        (fun later within => apart later (List.mem_cons_of_mem _ within))
      refine ⟨alike.trans others, ?_⟩
      rw [journal, List.filter_append, silent, quiet, List.append_nil]

/-- The commands of a run that may matter to what a sensor writes. -/
def concerning (handle : Int) (commands : List (Int × Command)) : List (Int × Command) :=
  commands.filter (·.2.concerns handle)

theorem concerning_cons (handle now : Int) (command : Command) (rest : List (Int × Command)) :
    concerning handle ((now, command) :: rest) =
      if command.concerns handle then (now, command) :: concerning handle rest
      else concerning handle rest := by
  rw [concerning, List.filter_cons]
  rfl

theorem concerning_nil {handle : Int} {commands : List (Int × Command)}
    (none : concerning handle commands = []) :
    ∀ entry ∈ commands, entry.2.concerns handle = false := by
  intro entry listed
  simpa using List.filter_eq_nil_iff.1 none entry listed

/-- Runs that are the same to a sensor get the same events of it accepted. -/
theorem journals_alike {handle : Int} {hub other : Hub} (fit : hub.Fit) (also : other.Fit)
    (alike : Alike handle hub other) {first second : List (Int × Command)}
    (controls : ∀ entry ∈ first, entry.2.Controls) (controls' : ∀ entry ∈ second, entry.2.Controls)
    (unfilled : hub.Unfilled first) (unfilled' : other.Unfilled second)
    (same : concerning handle first = concerning handle second) :
    (hub.journal first).filter (·.sensor == handle) =
      (other.journal second).filter (·.sensor == handle) := by
  induction first generalizing hub other second with
  | nil =>
      rw [(run_apart also controls' (concerning_nil same.symm)).2]
      rfl
  | cons entry rest ih =>
      obtain ⟨now, command⟩ := entry
      have control : command.Controls := controls (now, command) List.mem_cons_self
      have onward : ∀ entry ∈ rest, entry.2.Controls :=
        fun later within => controls later (List.mem_cons_of_mem _ within)
      have steps : hub.Unfilled ([(now, command)] ++ rest) := unfilled
      obtain ⟨begun, ended⟩ := unfilled_append.1 steps
      cases concerned : command.concerns handle with
      | false =>
          rw [concerning_cons, if_neg (by simp [concerned])] at same
          obtain ⟨stays, silent⟩ := perform_apart fit now control concerned
          rw [journal, List.filter_append, silent, List.nil_append]
          exact ih (fit.perform now control) also (stays.symm.trans alike) onward controls' ended
            unfilled' same
      | true =>
          rw [concerning_cons, if_pos concerned, eq_comm] at same
          -- what precedes the same command in the other run does not concern the sensor
          obtain ⟨ahead, after, rfl, apart, -, later⟩ := List.filter_eq_cons_iff.1 same
          obtain ⟨-, unfilled'⟩ := unfilled_append.1 unfilled'
          have steps' : (other.run ahead).Unfilled ([(now, command)] ++ after) := unfilled'
          obtain ⟨begun', ended'⟩ := unfilled_append.1 steps'
          have before : ∀ entry ∈ ahead, entry.2.Controls :=
            fun entry within => controls' entry (List.mem_append_left _ within)
          have behind : ∀ entry ∈ after, entry.2.Controls := fun entry within =>
            controls' entry (List.mem_append_right _ (List.mem_cons_of_mem _ within))
          obtain ⟨stays, silent⟩ := run_apart also before (by simpa using apart)
          have reached := also.run before
          obtain ⟨together, written⟩ := perform_together fit reached (alike.trans stays) now concerned
            begun begun'
          have rest := ih (fit.perform now control) (reached.perform now control) together onward
            behind ended ended' later.symm
          rw [journal, journal_append, journal, List.filter_append, List.filter_append,
            List.filter_append, silent, List.nil_append, written, rest]

/-- **What others do is not seen in a stream.** -/
theorem run_isolated {hub : Hub} (reachable : hub.Reachable)
    (forwards : ∀ node ∈ hub.nodes, node.forwards = true) (handle : Int)
    {first second : List (Int × Command)}
    (controls : ∀ entry ∈ first, entry.2.Controls) (controls' : ∀ entry ∈ second, entry.2.Controls)
    (unfilled : hub.Unfilled first) (unfilled' : hub.Unfilled second)
    (same : concerning handle first = concerning handle second) :
    (hub.stream first).filter (·.sensor == handle) =
      (hub.stream second).filter (·.sensor == handle) := by
  have fit : hub.Fit := ⟨reachable.sound, forwards⟩
  have streamed : ∀ commands, (∀ entry ∈ commands, entry.2.Controls) →
      hub.stream commands = hub.pipe.queue ++ hub.journal commands := by
    intro commands controls
    exact run_stream fit.sound (fun entry within => (controls entry within).fresh)
      (fit.run controls).forwards
  rw [streamed first controls, streamed second controls', List.filter_append, List.filter_append,
    journals_alike fit fit (.refl handle hub) controls controls' unfilled unfilled' same]

/-- A leaf and two sensors behind it, one after the other. -/
def line : Hub :=
  (Hub.new 8).run
    [ (0, .register (Leaf.gameRotationVector.node "orientation" 1)),
      (0, .register (.follower 2 .gameRotationVector .rotationVector)),
      (0, .register (.follower 3 .rotationVector .geomagneticRotationVector)) ]

/-- The last sensor of the line is enabled alone. -/
def aloneRun : List (Int × Command) :=
  [ (0, .switch 3 true),
    (5, .deliver .accelGyroFusion (.blank 10 200000000)),
    (5, .poll 1),
    (6, .flush 3),
    (7, .deliver .accelGyroFusion (.blank 200000010 200000000)) ]

/-- Those that drive it are enabled, slowed and flushed as well. -/
def busyRun : List (Int × Command) :=
  [ (0, .switch 1 true),
    (0, .switch 3 true),
    (1, .setPeriod 2 400000000),
    (2, .switch 2 true),
    (5, .deliver .accelGyroFusion (.blank 10 200000000)),
    (5, .flush 1),
    (6, .flush 3),
    (6, .switch 1 false),
    (7, .deliver .accelGyroFusion (.blank 200000010 200000000)),
    (8, .poll 3) ]

theorem line_reachable : line.Reachable := by
  apply (Reachable.made (.empty 8)).run
  simp [Command.Fresh, leaf_fresh, follower_fresh]

/-- The runs differ in all but the last sensor's events. -/
theorem busyRun_isolated : line.Reachable ∧ (∀ node ∈ line.nodes, node.forwards = true) ∧
    (∀ entry ∈ aloneRun, entry.2.Controls) ∧ (∀ entry ∈ busyRun, entry.2.Controls) ∧
    line.Unfilled aloneRun ∧ line.Unfilled busyRun ∧ concerning 3 aloneRun = concerning 3 busyRun ∧
    (line.stream aloneRun).filter (·.sensor == 3) = (line.stream busyRun).filter (·.sensor == 3) ∧
    (line.stream aloneRun).map Event.sensor = [3, 3, 3] ∧
    (line.stream busyRun).map Event.sensor = [1, 2, 3, 1, 3, 3] := by
  have forwards : ∀ node ∈ line.nodes, node.forwards = true := by decide
  have alone : ∀ entry ∈ aloneRun, entry.2.Controls := by simp [aloneRun, Command.Controls]
  have busy : ∀ entry ∈ busyRun, entry.2.Controls := by simp [busyRun, Command.Controls]
  have unfilled : line.Unfilled aloneRun := by decide
  have unfilled' : line.Unfilled busyRun := by decide
  have same : concerning 3 aloneRun = concerning 3 busyRun := by decide
  have isolated := run_isolated line_reachable forwards 3 alone busy unfilled unfilled' same
  exact ⟨line_reachable, forwards, alone, busy, unfilled, unfilled', same, isolated, by decide,
    by decide⟩

end FusionSensors.Hub
