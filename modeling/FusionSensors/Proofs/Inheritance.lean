/-
# FusionSensors.Proofs.Inheritance -- what a sensor has of its source

A sensor takes over fields of its source when the two meet. Main statement,
`inherited_from`: a node whose source is a provider has the provider's values,
in whatever order the two were registered. A node behind another node has the
values that its source had when the node itself was registered, or its own if
there was no source then; so it agrees with the source as it is now exactly if
those values agree with it (`lateSource_uninformed` is a run where they do not).
-/
import FusionSensors.Proofs.Configured
import FusionSensors.Proofs.Isolation
import Mathlib.Data.List.Induction

namespace FusionSensors

set_option autoImplicit false

/-! ## Inherited fields -/

/-- Two descriptors have the same values in the chosen fields. -/
structure Descriptor.Agrees (fields : Inheritance) (d e : Descriptor) : Prop where
  resolution : fields.resolution = true → d.resolution = e.resolution
  range : fields.range = true → d.maxRange = e.maxRange
  delay : fields.delay = true → d.minDelay = e.minDelay ∧ d.maxDelay = e.maxDelay
  name : fields.name = true → d.name = e.name

namespace Descriptor.Agrees

variable {fields : Inheritance} {d e f : Descriptor}

theorem refl (fields : Inheritance) (d : Descriptor) : Agrees fields d d :=
  ⟨fun _ => rfl, fun _ => rfl, fun _ => ⟨rfl, rfl⟩, fun _ => rfl⟩

theorem symm (agrees : Agrees fields d e) : Agrees fields e d where
  resolution chosen := (agrees.resolution chosen).symm
  range chosen := (agrees.range chosen).symm
  delay chosen := ⟨(agrees.delay chosen).1.symm, (agrees.delay chosen).2.symm⟩
  name chosen := (agrees.name chosen).symm

theorem trans (first : Agrees fields d e) (second : Agrees fields e f) : Agrees fields d f where
  resolution chosen := (first.resolution chosen).trans (second.resolution chosen)
  range chosen := (first.range chosen).trans (second.range chosen)
  delay chosen := ⟨(first.delay chosen).1.trans (second.delay chosen).1,
    (first.delay chosen).2.trans (second.delay chosen).2⟩
  name chosen := (first.name chosen).trans (second.name chosen)

instance (fields : Inheritance) (d e : Descriptor) : Decidable (Agrees fields d e) :=
  decidable_of_iff ((fields.resolution = true → d.resolution = e.resolution) ∧
      (fields.range = true → d.maxRange = e.maxRange) ∧
      (fields.delay = true → d.minDelay = e.minDelay ∧ d.maxDelay = e.maxDelay) ∧
      (fields.name = true → d.name = e.name))
    ⟨fun ⟨resolution, range, delay, name⟩ => ⟨resolution, range, delay, name⟩,
      fun ⟨resolution, range, delay, name⟩ => ⟨resolution, range, delay, name⟩⟩

/-- What was inherited is what the provider has. -/
theorem inherit (d provider : Descriptor) (fields : Inheritance) :
    Agrees fields (d.inherit provider fields) provider :=
  ⟨fun chosen => if_pos chosen, fun chosen => if_pos chosen,
    fun chosen => ⟨if_pos chosen, if_pos chosen⟩, fun chosen => if_pos chosen⟩

end Descriptor.Agrees

/-- A node has the values of a descriptor in the fields that it inherits. -/
def Node.Takes (node : Node) (source : Descriptor) : Prop :=
  node.descriptor.Agrees node.inheritance source

theorem Node.takes_resolve (node : Node) (provider : Descriptor) :
    (node.resolve provider).value.Takes provider :=
  .inherit node.descriptor provider node.inheritance

/-- Natures tell what a node has taken. -/
theorem Node.takes_of_bare {node other : Node} (same : node.bare = other.bare) {source : Descriptor}
    (takes : node.Takes source) : other.Takes source := by
  unfold Takes at takes ⊢
  rwa [← descriptor_eq_of_bare same, ← inheritance_eq_of_bare same]

namespace Hub

/-- Every node has the values of its source, as that is now. -/
def Informed (hub : Hub) : Prop :=
  ∀ node ∈ hub.nodes, ∀ trigger ∈ node.triggerKind, ∀ source ∈ hub.source? trigger,
    node.Takes source

instance (node : Node) (source : Descriptor) : Decidable (node.Takes source) :=
  inferInstanceAs (Decidable (Descriptor.Agrees _ _ _))

instance (hub : Hub) : Decidable hub.Informed :=
  inferInstanceAs (Decidable (∀ node ∈ hub.nodes, ∀ trigger ∈ node.triggerKind,
    ∀ source ∈ hub.source? trigger, node.Takes source))

/-! ## Where values come from -/

/-- A run registers the node at some point, where it takes over from the source
of that moment; without one it keeps what it was built with. -/
def Meets (start : Hub) (commands : List (Int × Command)) (node : Node) (basis : Descriptor) : Prop :=
  ∃ before now built after, commands = before ++ (now, .register built) :: after ∧
    ((start.run before).perform now (.register built)).value.2 = .done ∧
    built.handle = node.handle ∧
    basis = (node.triggerKind.bind (start.run before).source?).getD built.descriptor

/-- What a node with a trigger has taken over, and from whom. -/
structure Traced (start : Hub) (commands : List (Int × Command)) (node : Node)
    (trigger : SensorKind) : Prop where
  provided : ∀ provider, (start.run commands).provider? trigger = some provider →
    node.Takes provider
  driven : (start.run commands).provider? trigger = none →
    ∃ basis, start.Meets commands node basis ∧ node.Takes basis

/-- Every node is traced. -/
def Tracing (start : Hub) (commands : List (Int × Command)) : Prop :=
  ∀ node ∈ (start.run commands).nodes, ∀ trigger, node.triggerKind = some trigger →
    start.Traced commands node trigger

section Steps

variable {start : Hub} {commands more : List (Int × Command)} {now : Int}

/-- As long as a node keeps its nature and its kind of source no provider comes,
it stays traced. -/
theorem Traced.later {node after : Node} {trigger : SensorKind}
    (traced : start.Traced commands node trigger) (same : node.bare = after.bare)
    (kept : (start.run (commands ++ more)).provider? trigger =
      (start.run commands).provider? trigger) :
    start.Traced (commands ++ more) after trigger := by
  have triggers := Node.triggerKind_eq_of_bare same
  constructor
  · intro provider found
    exact Node.takes_of_bare same (traced.provided provider (kept ▸ found))
  · intro missing
    obtain ⟨basis, meets, takes⟩ := traced.driven (kept ▸ missing)
    obtain ⟨before, now, built, rest, rfl, done, named, rfl⟩ := meets
    refine ⟨_, ⟨before, now, built, rest ++ more, by simp, done, ?_, rfl⟩, ?_⟩
    · rw [named, Node.handle_eq_of_bare same]
    · rw [← triggers]
      exact Node.takes_of_bare same takes

/-- A command that registers nothing changes nothing of what was taken over. -/
theorem Tracing.control (tracing : start.Tracing commands)
    (distinct : ((start.run commands).nodes.map Node.handle).Nodup) {command : Command}
    (controls : command.Controls) : start.Tracing (commands ++ [(now, command)]) := by
  obtain ⟨natures, providers⟩ :=
    ((start.run commands).perform_effect now command).bare distinct controls
  intro node listed trigger triggered
  rw [run_concat] at listed
  obtain ⟨old, known, same⟩ := exists_alike natures listed
  have triggers : old.triggerKind = some trigger :=
    (Node.triggerKind_eq_of_bare same).trans triggered
  refine (tracing old known trigger triggers).later same ?_
  rw [run_concat, provider?, providers]
  rfl

/-- A command that is refused changes nothing either. -/
theorem Tracing.refused (tracing : start.Tracing commands) {command : Command}
    (still : ((start.run commands).perform now command).value.1 = start.run commands) :
    start.Tracing (commands ++ [(now, command)]) := by
  intro node listed trigger triggered
  rw [run_concat, still] at listed
  exact (tracing node listed trigger triggered).later rfl (by rw [run_concat, still])

/-- A node that is registered meets its source, if that is there. -/
theorem Tracing.register (tracing : start.Tracing commands) (built : Node) :
    start.Tracing (commands ++ [(now, .register built)]) := by
  cases outcome : (start.run commands).register built with
  | error fault => exact tracing.refused (by rw [perform, settle_error outcome])
  | ok logged =>
      obtain ⟨-, -, driver, met, drives, rfl, value⟩ := register_ok outcome
      have performed : ((start.run commands).perform now (.register built)).value =
          (logged.value, .done) := settle_ok outcome
      have next : start.run (commands ++ [(now, .register built)]) = logged.value := by
        rw [run_concat, performed]
      intro node listed trigger triggered
      rw [next, value] at listed
      rcases List.mem_append.1 listed with known | new
      · exact (tracing node known trigger triggered).later rfl (by rw [next, value]; rfl)
      · rw [List.mem_singleton] at new
        have provision : (start.run (commands ++ [(now, .register built)])).provider? trigger =
            (start.run commands).provider? trigger := by rw [next, value]; rfl
        -- meeting a source changes the descriptor only
        have kept : node.triggerKind = built.triggerKind ∧ node.handle = built.handle := by
          rw [new]
          cases (start.run commands).source? driver <;> exact ⟨rfl, rfl⟩
        obtain rfl : trigger = driver := by
          rw [kept.1, drives] at triggered
          exact (Option.some.inj triggered).symm
        constructor
        · intro provider found
          have source : (start.run commands).source? trigger = some provider := by
            rw [source?, ← provision, found, Option.some_or]
          rw [new, source]
          exact built.takes_resolve provider
        · intro missing
          refine ⟨_, ⟨commands, now, built, [], rfl, by rw [performed], kept.2.symm, rfl⟩, ?_⟩
          rw [triggered, Option.bind_some, new]
          cases (start.run commands).source? trigger with
          | none => exact .refl built.inheritance built.descriptor
          | some source => exact built.takes_resolve source

/-- A provider that is registered is met by all nodes that it drives. -/
theorem Tracing.provide (tracing : start.Tracing commands) (provider : Descriptor) :
    start.Tracing (commands ++ [(now, .registerProvider provider)]) := by
  cases outcome : (start.run commands).registerProvider provider with
  | error fault => exact tracing.refused (by rw [perform, settle_error outcome])
  | ok logged =>
      obtain ⟨first, -, value⟩ := registerProvider_ok outcome
      have next : start.run (commands ++ [(now, .registerProvider provider)]) = logged.value := by
        rw [run_concat, perform, settle_ok outcome]
      have provision : ∀ kind, (start.run (commands ++ [(now, .registerProvider provider)])).provider?
          kind = if provider.kind = kind then some provider
            else (start.run commands).provider? kind := by
        intro kind
        rw [next, value]
        exact Descriptor.find?_insertByHandle first kind
      intro node listed trigger triggered
      rw [next, value] at listed
      obtain ⟨old, known, rfl⟩ := List.mem_map.1 listed
      by_cases driven : old.triggerKind = some provider.kind
      · rw [if_pos driven] at triggered ⊢
        obtain rfl : provider.kind = trigger := Option.some.inj (driven.symm.trans triggered)
        have found := provision provider.kind
        rw [if_pos rfl] at found
        constructor
        · intro other there
          obtain rfl : provider = other := Option.some.inj (found.symm.trans there)
          exact old.takes_resolve provider
        · intro missing
          rw [found] at missing
          cases missing
      · rw [if_neg driven] at triggered ⊢
        refine (tracing old known trigger triggered).later rfl ?_
        rw [provision, if_neg]
        rintro rfl
        exact driven triggered

end Steps

/-! ## Every run -/

theorem Made.tracing {start : Hub} (made : start.Made) : start.Tracing [] := by
  cases made with
  | empty capacity =>
      intro node listed
      exact absurd listed List.not_mem_nil
  | @configured config logged built =>
      obtain ⟨-, -, nodes, providers⟩ := ofConfig_built built
      intro node listed trigger triggered
      have listed : node ∈ logged.value.nodes := listed
      rw [nodes] at listed
      obtain ⟨entry, -, rfl⟩ := List.mem_map.1 listed
      obtain rfl : SensorKind.accelGyroFusion = trigger := Option.some.inj triggered
      have provision : (logged.value.run []).provider? .accelGyroFusion =
          some (config.fusion.descriptor config.vendor) := by
        show logged.value.providers.find? _ = _
        rw [providers]
        rfl
      constructor
      · intro provider found
        obtain rfl := Option.some.inj (provision.symm.trans found)
        exact (Hub.configured config entry).takes_resolve _
      · intro missing
        rw [provision] at missing
        cases missing

theorem run_tracing {start : Hub} (made : start.Made) {commands : List (Int × Command)}
    (fresh : ∀ entry ∈ commands, entry.2.Fresh) : start.Tracing commands := by
  induction commands using List.reverseRecOn with
  | nil => exact made.tracing
  | append_singleton before entry ih =>
      obtain ⟨now, command⟩ := entry
      have earlier : ∀ entry ∈ before, entry.2.Fresh :=
        fun entry within => fresh entry (List.mem_append_left _ within)
      have tracing := ih earlier
      have distinct := ((Reachable.made made).run earlier).sound.handles
      cases command with
      | register built => exact tracing.register built
      | registerProvider provider => exact tracing.provide provider
      | switch | setPeriod | flush | deliver | poll => exact tracing.control distinct trivial

/-- **What a node has of its source.** -/
theorem inherited_from {start : Hub} (made : start.Made) {commands : List (Int × Command)}
    (fresh : ∀ entry ∈ commands, entry.2.Fresh) {node : Node}
    (listed : node ∈ (start.run commands).nodes) {trigger : SensorKind}
    (triggered : node.triggerKind = some trigger) :
    (∀ provider, (start.run commands).provider? trigger = some provider → node.Takes provider) ∧
      ((start.run commands).provider? trigger = none →
        ∃ basis, start.Meets commands node basis ∧
          ∀ source, node.Takes source ↔ basis.Agrees node.inheritance source) := by
  obtain ⟨provided, driven⟩ := run_tracing made fresh node listed trigger triggered
  refine ⟨provided, ?_⟩
  intro missing
  obtain ⟨basis, meets, takes⟩ := driven missing
  refine ⟨basis, meets, ?_⟩
  intro source
  constructor
  · exact fun current => takes.symm.trans current
  · exact fun current => takes.trans current

/-- A sensor is registered before the one that drives it, another one after it,
and the provider of all in between. -/
def lateRun : List (Int × Command) :=
  [ (0, .register (.follower 2 .gameRotationVector .rotationVector)),
    (0, .register (Leaf.gameRotationVector.node "orientation" 1)),
    (0, .registerProvider (.ofKind "fusion" 7 .accelGyroFusion)),
    (0, .register (.follower 3 .gameRotationVector .geomagneticRotationVector)) ]

theorem lateRun_fresh : ∀ entry ∈ lateRun, entry.2.Fresh := by
  simp [lateRun, Command.Fresh, leaf_fresh, follower_fresh]

/-- The sensor that came first has only what it was built with. -/
theorem lateRun_inherited : (Hub.new 8).Made ∧ (∀ entry ∈ lateRun, entry.2.Fresh) ∧
    ∃ node ∈ ((Hub.new 8).run lateRun).nodes, node.handle = 2 ∧
      node.triggerKind = some .gameRotationVector ∧
      ((Hub.new 8).run lateRun).provider? .gameRotationVector = none ∧
      ∃ basis, (Hub.new 8).Meets lateRun node basis ∧
        ∀ source, node.Takes source ↔ basis.Agrees node.inheritance source := by
  have listed : Node.follower 2 .gameRotationVector .rotationVector ∈
      ((Hub.new 8).run lateRun).nodes := by decide
  have missing : ((Hub.new 8).run lateRun).provider? .gameRotationVector = none := by decide
  exact ⟨.empty 8, lateRun_fresh, _, listed, rfl, rfl, missing,
    (inherited_from (.empty 8) lateRun_fresh listed rfl).2 missing⟩

/-- A sensor is registered before the one that drives it. -/
def lateSource : List (Int × Command) := lateRun.take 2

/-- Registered the other way round, the two sensors agree. -/
theorem lateSource_uninformed : ((Hub.new 8).run lateSource).Reachable ∧
    ¬ ((Hub.new 8).run lateSource).Informed ∧ ((Hub.new 8).run lateSource.reverse).Informed := by
  refine ⟨(Reachable.made (.empty 8)).run ?_, by decide, by decide⟩
  exact fun entry within => lateRun_fresh entry (List.mem_of_mem_take within)

end Hub

end FusionSensors
