/-
# FusionSensors.Proofs.Limits -- requested periods and the limits of a sensor

A period is brought within the limits of a sensor when it is requested, and the
limits may change afterwards: a provider that is registered later brings its
own. Main statement, `outOfLimits_iff`: the period of a node is one that its
limits do not support exactly if it had been requested before such a provider
came and was not requested again (`Outdates`). Nothing else does that: not a
switch, not a delivery, not a default period, not a source that is itself a
node. `earlyRequest_outOfLimits` is a run where it happens, and where the same
commands in another order leave the period supported.
-/
import FusionSensors.Proofs.Inheritance

namespace FusionSensors

set_option autoImplicit false

/-! ## Supported periods -/

/-- A period is supported if it serves a request for itself. -/
def Descriptor.Supports (d : Descriptor) (period : Int) : Prop := d.clampPeriod period = period

namespace Descriptor

instance (d : Descriptor) (period : Int) : Decidable (d.Supports period) :=
  inferInstanceAs (Decidable (_ = _))

/-- A request is served by a supported period. -/
theorem supports_clampPeriod (d : Descriptor) (period : Int) :
    d.Supports (d.clampPeriod period) := by
  unfold Supports clampPeriod
  dsimp only
  split <;> omega

/-- What is supported depends on the limits only. -/
theorem supports_congr {d e : Descriptor} (least : d.minDelay = e.minDelay)
    (largest : d.maxDelay = e.maxDelay) (period : Int) : d.Supports period ↔ e.Supports period := by
  rw [Supports, Supports, clampPeriod, clampPeriod, least, largest]

end Descriptor

namespace Node

/-- The requested period, if there is one, is supported. -/
def InLimits (node : Node) : Prop := node.period = 0 ∨ node.descriptor.Supports node.period

instance (node : Node) : Decidable node.InLimits := inferInstanceAs (Decidable (_ ∨ _))

/-- What is requested of a node, and where it has its limits from. -/
def request (node : Node) : Int × Int × Option SensorKind × Inheritance :=
  (node.handle, node.period, node.triggerKind, node.inheritance)

/-- A period that is set is supported. -/
theorem paced_inLimits (node : Node) (period : Int) : (node.paced period).InLimits :=
  .inr (node.descriptor.supports_clampPeriod period)

/-- A node that inherits limits has those of the provider that it meets. -/
theorem resolve_inLimits {node : Node} {provider : Descriptor}
    (inherited : node.inheritance.delay = true) : (node.resolve provider).value.InLimits ↔
      node.period = 0 ∨ provider.Supports node.period :=
  or_congr Iff.rfl (Descriptor.supports_congr (if_pos inherited) (if_pos inherited) node.period)

/-- Another node keeps its own. -/
theorem resolve_inLimits_own {node : Node} {provider : Descriptor}
    (own : ¬ node.inheritance.delay = true) :
    (node.resolve provider).value.InLimits ↔ node.InLimits :=
  or_congr Iff.rfl (Descriptor.supports_congr (if_neg own) (if_neg own) node.period)

/-- Nature and period of a node tell the rest. -/
theorem request_eq {node other : Node} (bare : node.bare = other.bare)
    (period : node.period = other.period) : node.request = other.request := by
  rw [request, request, handle_eq_of_bare bare, period, triggerKind_eq_of_bare bare,
    inheritance_eq_of_bare bare]

theorem inLimits_congr {node other : Node} (bare : node.bare = other.bare)
    (period : node.period = other.period) : node.InLimits ↔ other.InLimits := by
  rw [InLimits, InLimits, period, descriptor_eq_of_bare bare]

end Node

namespace Hub

/-- Every requested period is supported. -/
def InLimits (hub : Hub) : Prop := ∀ node ∈ hub.nodes, node.InLimits

instance (hub : Hub) : Decidable hub.InLimits :=
  inferInstanceAs (Decidable (∀ node ∈ hub.nodes, node.InLimits))

/-- The limits of a provider, which a node takes over, do not support the period
requested of it. -/
structure Overtakes (provider : Descriptor) (node : Node) : Prop where
  driven : node.triggerKind = some provider.kind
  inherited : node.inheritance.delay = true
  requested : node.period ≠ 0
  unsupported : ¬ provider.Supports node.period

/-- A run registers such a provider when the node already has the period that it
has in the end. -/
def Outdates (start : Hub) (commands : List (Int × Command)) (node : Node) : Prop :=
  ∃ before now provider after, commands = before ++ (now, .registerProvider provider) :: after ∧
    ((start.run before).perform now (.registerProvider provider)).value.2 = .done ∧
    Overtakes provider node ∧ ∃ old ∈ (start.run before).nodes, old.request = node.request

/-- The request alone decides whether a provider overtakes it. -/
theorem Overtakes.congr {provider : Descriptor} {node other : Node}
    (overtakes : Overtakes provider node) (same : node.request = other.request) :
    Overtakes provider other := by
  have triggers : node.triggerKind = other.triggerKind := congrArg (·.2.2.1) same
  have fields : node.inheritance = other.inheritance := congrArg (·.2.2.2) same
  have periods : node.period = other.period := congrArg (·.2.1) same
  obtain ⟨driven, inherited, requested, unsupported⟩ := overtakes
  exact ⟨triggers ▸ driven, fields ▸ inherited, periods ▸ requested, periods ▸ unsupported⟩

/-- A node stays outdated as long as nothing else is requested of it. -/
theorem Outdates.later {start : Hub} {commands more : List (Int × Command)} {old node : Node}
    (outdates : start.Outdates commands old) (same : old.request = node.request) :
    start.Outdates (commands ++ more) node := by
  obtain ⟨before, now, provider, after, rfl, done, overtakes, first, known, alike⟩ := outdates
  exact ⟨before, now, provider, after ++ more, by simp, done, overtakes.congr same, first, known,
    alike.trans same⟩

/-! ## One command -/

theorem mem_put {hub : Hub} {after node : Node} (listed : node ∈ (hub.put after).nodes) :
    node ∈ hub.nodes ∨ node = after := by
  obtain ⟨old, known, rfl⟩ := List.mem_map.1 listed
  split
  · exact .inr rfl
  · exact .inl known

/-- A node that is out of its limits after a command was so before, or has a new
provider. -/
theorem Effect.outOfLimits {hub after : Hub} {now : Int} {command : Command} {reply : Reply}
    (effect : hub.Effect now command after reply) (fresh : command.Fresh) {node : Node}
    (listed : node ∈ after.nodes) (out : ¬ node.InLimits) :
    ∃ old ∈ hub.nodes, old.request = node.request ∧
      (¬ old.InLimits ∨ ∃ provider, command = .registerProvider provider ∧ reply = .done ∧
        Overtakes provider node) := by
  cases effect with
  | refused | flushed | polled => exact ⟨node, listed, rfl, .inl out⟩
  | @registered built trigger unused independent triggered =>
      rcases List.mem_append.1 listed with known | new
      · exact ⟨node, known, rfl, .inl out⟩
      · have unasked : node.period = 0 := by
          rw [List.mem_singleton.1 new, ← show built.period = 0 by rw [Node.period, fresh.gate]]
          cases hub.source? trigger <;> rfl
        exact absurd (.inl unasked) out
  | @provided provider first unused =>
      obtain ⟨old, known, rfl⟩ := List.mem_map.1 listed
      split at out
      · rename_i driven
        rw [if_pos driven]
        refine ⟨old, known, rfl, ?_⟩
        by_cases inherited : old.inheritance.delay = true
        · rw [Node.resolve_inLimits inherited, not_or] at out
          exact .inr ⟨provider, rfl, rfl, driven, inherited, out.1, out.2⟩
        · rw [Node.resolve_inLimits_own inherited] at out
          exact .inl out
      · rename_i other
        rw [if_neg other]
        exact ⟨old, known, rfl, .inl out⟩
  | @switched found paced handle on known ready =>
      have bare := paced.switch_bare on now
      have period := paced.switch_period on now
      rcases mem_put listed with other | rfl
      · exact ⟨node, other, rfl, .inl out⟩
      · rw [Node.inLimits_congr bare period] at out
        rcases ready with ⟨-, rfl⟩ | ⟨-, set, accepted, rfl⟩
        · exact ⟨paced, (node?_some known).1, (Node.request_eq bare period).symm, .inl out⟩
        · rw [(Node.setPeriod_ok accepted).2] at out
          exact absurd (found.paced_inLimits _) out
  | @paced found handle period set known accepted =>
      rcases mem_put listed with other | rfl
      · exact ⟨node, other, rfl, .inl out⟩
      · rw [(Node.setPeriod_ok accepted).2] at out
        exact absurd (found.paced_inLimits period) out
  | delivered source sample =>
      have kept := hub.deliver_map (fun node => (node.bare, node.period)) ?_ source sample
      · obtain ⟨old, known, same⟩ := exists_alike kept listed
        have bare := congrArg Prod.fst same
        have period := congrArg Prod.snd same
        exact ⟨old, known, Node.request_eq bare period,
          .inl fun within => out ((Node.inLimits_congr bare period).1 within)⟩
      · intro node pipe sample
        rw [Node.cycle_bare, Node.cycle_period]

/-! ## Every run -/

/-- A provider stays the provider of its kind. -/
theorem provider?_run {hub : Hub} {kind : SensorKind} {provider : Descriptor}
    (found : hub.provider? kind = some provider) (commands : List (Int × Command)) :
    (hub.run commands).provider? kind = some provider := by
  induction commands generalizing hub with
  | nil => exact found
  | cons entry rest ih =>
      apply ih
      rcases (hub.perform_effect entry.1 entry.2).providers with
        same | ⟨other, -, -, first, inserted⟩
      · rw [provider?, same]
        exact found
      · have apart : other.kind ≠ kind := by
          rintro rfl
          rw [found] at first
          cases first
        rw [provider?, inserted, Descriptor.find?_insertByHandle first, if_neg apart]
        exact found

/-- A provider that is accepted is the provider of its kind. -/
theorem provider?_done {hub : Hub} {now : Int} {provider : Descriptor}
    (done : (hub.perform now (.registerProvider provider)).value.2 = .done) :
    (hub.perform now (.registerProvider provider)).value.1.provider? provider.kind =
      some provider := by
  obtain ⟨logged, accepted, value⟩ := settle_done done
  obtain ⟨first, -, registered⟩ := registerProvider_ok accepted
  rw [perform, ← value, registered, provider?, Descriptor.find?_insertByHandle first, if_pos rfl]

/-- A hub as it is made has no period requested. -/
theorem Made.unrequested {start : Hub} (made : start.Made) :
    ∀ node ∈ start.nodes, node.period = 0 := by
  cases made with
  | empty capacity => exact fun node listed => absurd listed List.not_mem_nil
  | @configured config logged built =>
      obtain ⟨-, -, nodes, -⟩ := ofConfig_built built
      intro node listed
      rw [nodes] at listed
      obtain ⟨entry, -, rfl⟩ := List.mem_map.1 listed
      rfl

theorem outdates_of_out {start : Hub} (made : start.Made) {commands : List (Int × Command)}
    (fresh : ∀ entry ∈ commands, entry.2.Fresh) {node : Node}
    (listed : node ∈ (start.run commands).nodes) (out : ¬ node.InLimits) :
    start.Outdates commands node := by
  induction commands using List.reverseRecOn generalizing node with
  | nil => exact absurd (.inl (made.unrequested node listed)) out
  | append_singleton before entry ih =>
      obtain ⟨now, command⟩ := entry
      have earlier : ∀ entry ∈ before, entry.2.Fresh :=
        fun entry within => fresh entry (List.mem_append_left _ within)
      have last : command.Fresh := fresh _ (List.mem_append_right _ List.mem_cons_self)
      rw [run_concat] at listed
      obtain ⟨old, known, same, out | ⟨provider, rfl, done, overtakes⟩⟩ :=
        ((start.run before).perform_effect now command).outOfLimits last listed out
      · exact (ih earlier known out).later same
      · exact ⟨before, now, provider, [], rfl, done, overtakes, old, known, same⟩

/-- Where all providers come first, every requested period is supported. -/
theorem run_inLimits {start : Hub} (made : start.Made) {commands : List (Int × Command)}
    (fresh : ∀ entry ∈ commands, entry.2.Fresh)
    (settled : ∀ entry ∈ commands, ∀ provider, entry.2 ≠ .registerProvider provider) :
    (start.run commands).InLimits := by
  intro node listed
  by_contra out
  obtain ⟨before, now, provider, after, rfl, -⟩ := outdates_of_out made fresh listed out
  exact settled (now, .registerProvider provider) (by simp) provider rfl

/-- **A requested period is not supported exactly if it was requested before the
provider came** that sets the limits. -/
theorem outOfLimits_iff {start : Hub} (made : start.Made) {commands : List (Int × Command)}
    (fresh : ∀ entry ∈ commands, entry.2.Fresh) {node : Node}
    (listed : node ∈ (start.run commands).nodes) :
    ¬ node.InLimits ↔ start.Outdates commands node := by
  refine ⟨outdates_of_out made fresh listed, ?_⟩
  rintro ⟨before, now, provider, after, rfl, done, overtakes, -⟩
  have found : (start.run (before ++ (now, .registerProvider provider) :: after)).provider?
      provider.kind = some provider := by
    rw [run_append]
    exact provider?_run (provider?_done done) after
  -- what the node inherits, it has from its provider
  have takes := (run_tracing made fresh node listed _ overtakes.driven).provided provider found
  obtain ⟨least, largest⟩ := takes.delay overtakes.inherited
  rintro (unrequested | supported)
  · exact overtakes.requested unrequested
  · exact overtakes.unsupported ((Descriptor.supports_congr least largest _).1 supported)

/-- A period is requested of a sensor before the provider comes that sets its limits. -/
def earlyRequest : List (Int × Command) :=
  [ (0, .register (Leaf.gravity.node "gravity" 1)),
    (0, .setPeriod 1 1000),
    (0, .registerProvider (FusionEntry.descriptor {} "vendor")) ]

/-- The same with the request last. -/
def lateRequest : List (Int × Command) :=
  [ (0, .register (Leaf.gravity.node "gravity" 1)),
    (0, .registerProvider (FusionEntry.descriptor {} "vendor")),
    (0, .setPeriod 1 1000) ]

theorem earlyRequest_fresh : ∀ entry ∈ earlyRequest, entry.2.Fresh := by
  simp [earlyRequest, Command.Fresh, leaf_fresh]

/-- The sensor has the period, and a provider that does not support it. -/
theorem earlyRequest_outdates : (Hub.new 8).Made ∧ (∀ entry ∈ earlyRequest, entry.2.Fresh) ∧
    ∃ node ∈ ((Hub.new 8).run earlyRequest).nodes, node.period = 1000 ∧
      (Hub.new 8).Outdates earlyRequest node := by
  have listed : ∃ node ∈ ((Hub.new 8).run earlyRequest).nodes,
      node.period = 1000 ∧ ¬ node.InLimits := by decide
  obtain ⟨node, listed, period, out⟩ := listed
  exact ⟨.empty 8, earlyRequest_fresh, node, listed, period,
    (outOfLimits_iff (.empty 8) earlyRequest_fresh listed).1 out⟩

/-- The order of the commands decides whether the period is supported. -/
theorem earlyRequest_outOfLimits : ((Hub.new 8).run earlyRequest).Reachable ∧
    ¬ ((Hub.new 8).run earlyRequest).InLimits ∧ ((Hub.new 8).run lateRequest).InLimits :=
  ⟨(Reachable.made (.empty 8)).run earlyRequest_fresh, by decide, by decide⟩

end Hub

end FusionSensors
