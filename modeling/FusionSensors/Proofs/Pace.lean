/-
# FusionSensors.Proofs.Pace -- a sensor that was enabled has a period

A sensor without a period has the default one requested when it is enabled, and
what is requested is brought within the delay limits of its descriptor, which
nobody checks. Main statement, `run_keepsPace`: whatever the limits, a sensor
that was enabled at some moment of a run has a positive period from then on,
which only a request changes. Therefore switching a sensor to the state that it
is in does nothing at all, and one that is disabled and enabled again runs at
the period that it had.
-/
import FusionSensors.Proofs.InPlace
import FusionSensors.Proofs.Onset

namespace FusionSensors

set_option autoImplicit false

/-! ## Periods under steps of a node -/

namespace Node

/-- A period that was set is only ever replaced by another one. -/
theorem Step.period_pos {node after : Node} (step : node.Step after) (positive : 0 < node.period) :
    0 < after.period := by
  cases step with
  | resolved provider => exact positive
  | paced set =>
      obtain ⟨requested, value⟩ := setPeriod_ok set
      rw [value]
      exact node.descriptor.clampPeriod_pos requested
  | switched on now ready => rwa [switch_period]
  | ran outlet sample => rwa [cycle_period]

theorem Steps.period_pos {node after : Node} (steps : node.Steps after) (positive : 0 < node.period) :
    0 < after.period := by
  induction steps with
  | refl => exact positive
  | tail _ step ih => exact step.period_pos ih

theorem switch_isEnabled (node : Node) (on : Bool) (now : Int) :
    (node.switch on now).value.isEnabled = on := by
  rw [switch_value]
  split
  · rename_i same
    exact same.symm
  · cases on <;> rfl

theorem switch_same (node : Node) (now : Int) : node.switch node.isEnabled now = pure node :=
  if_pos rfl

end Node

namespace Hub

/-! ## Periods under commands -/

section Put

variable {hub : Hub} (distinct : (hub.nodes.map Node.handle).Nodup) {node after : Node}
  (known : node ∈ hub.nodes) (handle : after.handle = node.handle)

include distinct known handle

theorem mem_put_self : after ∈ (hub.put after).nodes := by
  rw [put_nodes distinct known handle]
  exact List.mem_map.2 ⟨node, known, if_pos rfl⟩

theorem mem_put_of_ne {other : Node} (listed : other ∈ hub.nodes) (apart : other ≠ node) :
    other ∈ (hub.put after).nodes := by
  rw [put_nodes distinct known handle]
  exact List.mem_map.2 ⟨other, listed, if_neg apart⟩

end Put

/-- Only a request that names the handle changes a period that was set. -/
theorem Effect.period {hub after : Hub} {now : Int} {command : Command} {reply : Reply}
    (effect : hub.Effect now command after reply) (distinct : (hub.nodes.map Node.handle).Nodup)
    {node : Node} (listed : node ∈ hub.nodes) (positive : 0 < node.period)
    (unasked : ∀ period, command = .setPeriod node.handle period → period ≤ 0) :
    ∃ later ∈ after.nodes, later.handle = node.handle ∧ later.period = node.period := by
  cases effect with
  | refused | flushed | polled => exact ⟨node, listed, rfl, rfl⟩
  | registered unused independent triggered =>
      exact ⟨node, List.mem_append_left _ listed, rfl, rfl⟩
  | @provided provider first unused =>
      refine ⟨_, List.mem_map_of_mem listed, ?_⟩
      split <;> exact ⟨rfl, rfl⟩
  | @switched found paced handle on known ready =>
      obtain ⟨member, rfl⟩ := node?_some known
      have bare : paced.bare = found.bare := by
        rcases ready with ⟨-, rfl⟩ | ⟨-, set, accepted, rfl⟩
        · rfl
        · exact Node.setPeriod_bare accepted
      have named := Node.handle_eq_of_bare ((paced.switch_bare on now).trans bare)
      by_cases here : node = found
      · -- a period is there already, so the default one is not requested
        subst here
        have unchanged : paced = node := by
          rcases ready with ⟨-, same⟩ | ⟨⟨-, unset⟩, -⟩
          · exact same
          · omega
        refine ⟨_, mem_put_self distinct member named, named, ?_⟩
        rw [Node.switch_period, unchanged]
      · exact ⟨node, mem_put_of_ne distinct member named listed here, rfl, rfl⟩
  | @paced found handle period set known accepted =>
      obtain ⟨member, rfl⟩ := node?_some known
      have here : node ≠ found := by
        rintro rfl
        have asked := unasked period rfl
        have granted := (Node.setPeriod_ok accepted).1
        omega
      have named := Node.handle_eq_of_bare (Node.setPeriod_bare accepted)
      exact ⟨node, mem_put_of_ne distinct member named listed here, rfl, rfl⟩
  | delivered source sample =>
      have kept := deliver_map (fun node => (node.handle, node.period))
        (fun node pipe sample => Prod.ext (Node.handle_eq_of_bare (node.cycle_bare pipe sample))
          (node.cycle_period pipe sample)) hub source sample
      obtain ⟨later, known, same⟩ := exists_alike kept.symm listed
      exact ⟨later, known, congrArg Prod.fst same, congrArg Prod.snd same⟩

/-! ## Periods over a run -/

section Runs

variable {hub : Hub} {handle : Int} {node : Node} {commands : List (Int × Command)}

/-- A node is found under its handle after any run, some steps further. -/
theorem run_found (sound : hub.Sound) (fresh : ∀ entry ∈ commands, entry.2.Fresh)
    (found : hub.node? handle = some node) :
    ∃ later, (hub.run commands).node? handle = some later ∧ node.Steps later := by
  induction commands generalizing hub node with
  | nil => exact ⟨node, found, .refl⟩
  | cons entry rest ih =>
      obtain ⟨listed, rfl⟩ := node?_some found
      have effect := hub.perform_effect entry.1 entry.2
      have next := effect.sound sound (fresh entry List.mem_cons_self)
      obtain ⟨added, moves, -⟩ := effect.moves sound.handles
      obtain ⟨first, known, step⟩ := moves.later listed
      have again := node?_eq next.handles known
      rw [step.handle] at again
      obtain ⟨later, last, steps⟩ :=
        ih next (fun entry within => fresh entry (List.mem_cons_of_mem _ within)) again
      exact ⟨later, last, step.trans steps⟩

/-- A period that was set stays as long as no other one is requested. -/
theorem run_period (sound : hub.Sound) (fresh : ∀ entry ∈ commands, entry.2.Fresh)
    (found : hub.node? handle = some node) (positive : 0 < node.period)
    (unasked : ∀ now period, (now, .setPeriod handle period) ∈ commands → period ≤ 0) :
    ∃ later, (hub.run commands).node? handle = some later ∧ later.period = node.period := by
  induction commands generalizing hub node with
  | nil => exact ⟨node, found, rfl⟩
  | cons entry rest ih =>
      obtain ⟨now, command⟩ := entry
      obtain ⟨listed, rfl⟩ := node?_some found
      have effect := hub.perform_effect now command
      have next := effect.sound sound (fresh (now, command) List.mem_cons_self)
      have first : ∀ period, command = .setPeriod node.handle period → period ≤ 0 :=
        fun period same => unasked now period (same ▸ List.mem_cons_self)
      obtain ⟨later, known, same, period⟩ := effect.period sound.handles listed positive first
      have again := node?_eq next.handles known
      rw [same] at again
      obtain ⟨last, reached, kept⟩ :=
        ih next (fun entry within => fresh entry (List.mem_cons_of_mem _ within)) again
          (period ▸ positive) fun now period within => unasked now period (List.mem_cons_of_mem _ within)
      exact ⟨last, reached, kept.trans period⟩

end Runs

/-! ## Switching -/

section Switching

variable {hub : Hub} {handle : Int} {node : Node}

/-- Switching to the state that a node is in does nothing and says nothing, if
no default period is to be requested. -/
theorem perform_switch_same (sound : hub.Sound) (listed : node ∈ hub.nodes) (now : Int) :
    hub.perform now (.switch node.handle node.isEnabled) = pure (hub, .done) := by
  have ready : ¬ (node.isEnabled = true ∧ node.period = 0) := by
    rintro ⟨enabled, unset⟩
    have positive := (sound.nodes node listed).paced enabled
    omega
  have switched : hub.switch node.handle node.isEnabled now = .ok (pure hub) := by
    rw [switch_found (node?_eq sound.handles listed), Node.started, if_neg ready, Node.switch_same,
      Except.map, map_pure, put_self sound.handles listed]
  rw [perform, switched, settle, map_pure]

/-- A node that is there is in the state that it was switched to. -/
theorem enabled_switched (sound : hub.Sound) (found : hub.node? handle = some node) (now : Int)
    (on : Bool) : (hub.perform now (.switch handle on)).value.1.enabled handle = on := by
  obtain ⟨-, rfl⟩ := node?_some found
  obtain ⟨logged, started, value⟩ := started_readied sound.period on now node
  have named : (readied hub.defaultPeriod on now node).handle = node.handle :=
    value ▸ Node.started_handle started
  rw [perform_switch sound.period, change, found, Option.elim_some, enabled, node?_put, if_pos named,
    found, Option.map_some, Option.any_some, readied, Node.switch_isEnabled]

end Switching

/-! ## The theorem -/

/-- The sensor with a handle was enabled at some moment of a run, its end included. -/
def EverEnabled (start : Hub) (commands : List (Int × Command)) (handle : Int) : Prop :=
  ∃ part, part <+: commands ∧ (start.run part).enabled handle = true

/-- What a run leaves of the periods of its sensors. -/
structure KeepsPace (start : Hub) (commands : List (Int × Command)) : Prop where
  /-- a sensor that was enabled has a period -/
  positive : ∀ handle, start.EverEnabled commands handle →
    ∃ node, (start.run commands).node? handle = some node ∧ 0 < node.period
  /-- a period stays until another one is requested -/
  kept : ∀ handle node, (start.run commands).node? handle = some node → 0 < node.period →
    ∀ later, (∀ entry ∈ later, entry.2.Fresh) →
      (∀ now period, (now, .setPeriod handle period) ∈ later → period ≤ 0) →
        ∃ after, ((start.run commands).run later).node? handle = some after ∧
          after.period = node.period
  /-- a sensor that is disabled and enabled again has the period that it had -/
  resumed : ∀ handle node, (start.run commands).node? handle = some node → 0 < node.period →
    ∀ off on, ∃ after,
      ((start.run commands).run [(off, .switch handle false), (on, .switch handle true)]).node? handle =
        some after ∧ after.isEnabled = true ∧ after.period = node.period
  /-- switching a sensor to the state that it is in leaves the whole hub as it is -/
  idle : ∀ node ∈ (start.run commands).nodes, ∀ now,
    (start.run commands).perform now (.switch node.handle node.isEnabled) =
      pure (start.run commands, .done)

section Made

variable {start : Hub} {commands : List (Int × Command)} {handle : Int}

/-- A sensor that was enabled is there and has a period. -/
theorem EverEnabled.paced (made : start.Made) (fresh : ∀ entry ∈ commands, entry.2.Fresh)
    (once : start.EverEnabled commands handle) :
    ∃ node, (start.run commands).node? handle = some node ∧ 0 < node.period := by
  obtain ⟨part, ⟨rest, rfl⟩, enabled⟩ := once
  obtain ⟨node, found, on⟩ := (Option.any_eq_true _ _).1 enabled
  have sound := ((Reachable.made made).run fun entry within =>
    fresh entry (List.mem_append_left rest within)).sound
  have positive := (sound.nodes node (node?_some found).1).paced on
  obtain ⟨later, last, steps⟩ :=
    run_found sound (fun entry within => fresh entry (List.mem_append_right part within)) found
  rw [← run_append] at last
  exact ⟨later, last, steps.period_pos positive⟩

/-- **A sensor that was enabled keeps its pace**, whatever delay limits its
descriptor has, through everything but a request for another one. -/
theorem run_keepsPace (made : start.Made) (fresh : ∀ entry ∈ commands, entry.2.Fresh) :
    KeepsPace start commands := by
  have reachable := (Reachable.made made).run fresh
  constructor
  case positive => exact fun handle once => once.paced made fresh
  case kept =>
      exact fun handle node found positive later freshLater unasked =>
        run_period reachable.sound freshLater found positive unasked
  case resumed =>
      intro handle node found positive off on
      have halfway : ((start.run commands).perform off (.switch handle false)).value.1.Reachable :=
        .performed reachable off trivial
      have restart : ∀ entry ∈ [(off, Command.switch handle false), (on, Command.switch handle true)],
          entry.2.Fresh := by simp [Command.Fresh]
      obtain ⟨after, last, period⟩ :=
        run_period reachable.sound restart found positive (by simp)
      have stop : ∀ entry ∈ [(off, Command.switch handle false)], entry.2.Fresh := by
        simp [Command.Fresh]
      obtain ⟨stopped, known, -⟩ := run_found reachable.sound stop found
      have enabled : ((start.run commands).run
          [(off, .switch handle false), (on, .switch handle true)]).enabled handle = true :=
        enabled_switched halfway.sound known on true
      rw [Hub.enabled, last, Option.any_some] at enabled
      exact ⟨after, last, enabled, period⟩
  case idle => exact fun node listed now => perform_switch_same reachable.sound listed now

end Made

/-- The provider's least delay exceeds its largest one. The sensor that inherits
these limits is enabled, given a sample and disabled. -/
def invertedRun : List (Int × Command) :=
  [ (0, .registerProvider { Descriptor.ofKind "fusion" 7 .accelGyroFusion with
      minDelay := 2500, maxDelay := 1 }),
    (0, .register (Leaf.gravity.node "gravity" 1)),
    (5, .switch 1 true),
    (6, .deliver .accelGyroFusion (.blank 6 200000000)),
    (7, .switch 1 false) ]

/-- The default period is brought down to the largest delay of one microsecond,
which is the period ever after. -/
theorem invertedRun_keepsPace : (Hub.new 4).Made ∧ (∀ entry ∈ invertedRun, entry.2.Fresh) ∧
    (Hub.new 4).EverEnabled invertedRun 1 ∧
    ((Hub.new 4).run invertedRun).nodes.map (fun node => (node.isEnabled, node.period)) =
      [(false, 1000)] ∧
    KeepsPace (Hub.new 4) invertedRun := by
  have fresh : ∀ entry ∈ invertedRun, entry.2.Fresh := by
    simp [invertedRun, Command.Fresh, leaf_fresh]
  have once : (Hub.new 4).EverEnabled invertedRun 1 := ⟨invertedRun.take 3, List.take_prefix 3 _, rfl⟩
  exact ⟨.empty 4, fresh, once, rfl, run_keepsPace (.empty 4) fresh⟩

end Hub

end FusionSensors
