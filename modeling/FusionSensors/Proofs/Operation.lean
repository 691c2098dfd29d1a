/-
# FusionSensors.Proofs.Operation -- what an operation of a hub can do

Every operation is opened here once. `register_ok`, `switch_ok` and their like
say what a hub is after an operation that was not refused, and under what
condition it was not; switching a node and requesting a period of it are a
`change` of that node. What an operation does to a single node is one of four
steps (`Node.Step`); `Effect.moves` says that a command moves the nodes of a hub
by such steps only, and adds at most one.
-/
import FusionSensors.Proofs.Delivery
import Mathlib.Data.List.Forall2
import Mathlib.Data.List.Nodup
import Mathlib.Logic.Relation

namespace FusionSensors

set_option autoImplicit false

/-! ## Steps of a node -/

/-- What may happen to a node of a hub. A node is enabled only after a period
was requested of it. -/
inductive Node.Step (node : Node) : Node → Prop
  | resolved (provider : Descriptor) : Step node (node.resolve provider).value
  | paced {period : Int} {logged : Logged (Node × Int)} (set : node.setPeriod period = .ok logged) :
      Step node logged.value.1
  | switched (on : Bool) (now : Int) (ready : on = true → node.period ≠ 0) :
      Step node (node.switch on now).value
  | ran {σ : Type} [Outlet σ] (outlet : σ) (sample : Sample) :
      Step node (node.cycle outlet sample).value.1

/-- Any number of steps. -/
abbrev Node.Steps : Node → Node → Prop := Relation.ReflTransGen Node.Step

/-- A supported period is positive where the requested one is. -/
theorem Descriptor.clampPeriod_pos (d : Descriptor) {period : Int} (positive : 0 < period) :
    0 < d.clampPeriod period := by
  unfold clampPeriod
  dsimp only
  split <;> omega

namespace Node

/-- The node after a period was requested of it. -/
def paced (node : Node) (period : Int) : Node :=
  { node with gate := node.gate.request (node.descriptor.clampPeriod period) }

theorem setPeriod_ok {node : Node} {period : Int} {logged : Logged (Node × Int)}
    (set : node.setPeriod period = .ok logged) :
    0 < period ∧ logged.value = (node.paced period, node.descriptor.clampPeriod period) := by
  unfold setPeriod at set
  split at set
  · cases set
  · cases set
    exact ⟨by omega, rfl⟩

theorem setPeriod_pos (node : Node) {period : Int} (positive : 0 < period) :
    ∃ logged, node.setPeriod period = .ok logged ∧
      logged.value = (node.paced period, node.descriptor.clampPeriod period) := by
  unfold setPeriod
  rw [if_neg (by omega)]
  exact ⟨_, rfl, rfl⟩

theorem switch_value (node : Node) (on : Bool) (now : Int) :
    (node.switch on now).value = if on = node.isEnabled then node else
      { node with
        gate := node.gate.reset
        session := if on then some ⟨now, node.warmup⟩ else none
        output := if on then node.output else none } := by
  unfold switch
  split <;> rfl

theorem switch_bare (node : Node) (on : Bool) (now : Int) :
    (node.switch on now).value.bare = node.bare := by
  rw [switch_value]
  split <;> rfl

theorem setPeriod_bare {node : Node} {period : Int} {logged : Logged (Node × Int)}
    (set : node.setPeriod period = .ok logged) : logged.value.1.bare = node.bare := by
  rw [(setPeriod_ok set).2]
  rfl

theorem handle_eq_of_bare {node other : Node} (same : node.bare = other.bare) :
    node.handle = other.handle := by
  rw [← handle_bare, same, handle_bare]

theorem descriptor_eq_of_bare {node other : Node} (same : node.bare = other.bare) :
    node.descriptor = other.descriptor := congrArg (fun bare => bare.descriptor) same

theorem inheritance_eq_of_bare {node other : Node} (same : node.bare = other.bare) :
    node.inheritance = other.inheritance := congrArg (fun bare => bare.inheritance) same

theorem triggerKind_eq_of_bare {node other : Node} (same : node.bare = other.bare) :
    node.triggerKind = other.triggerKind := by
  rw [← triggerKind_bare, same, triggerKind_bare]

theorem switch_period (node : Node) (on : Bool) (now : Int) :
    (node.switch on now).value.period = node.period := by
  rw [switch_value]
  split <;> rfl

/-- A node switched as a hub does it: one that is to be enabled without a period
has the default one set first. -/
def started (node : Node) (defaultPeriod : Int) (on : Bool) (now : Int) :
    Except Fault (Logged Node) :=
  if on ∧ node.period = 0 then
    (node.setPeriod defaultPeriod).map fun set => set >>= fun (paced, _) => paced.switch on now
  else .ok (node.switch on now)

theorem started_handle {node : Node} {defaultPeriod now : Int} {on : Bool} {logged : Logged Node}
    (accepted : node.started defaultPeriod on now = .ok logged) :
    logged.value.handle = node.handle := by
  rw [started] at accepted
  split at accepted
  · cases paced : node.setPeriod defaultPeriod with
    | error fault =>
        rw [paced] at accepted
        cases accepted
    | ok set =>
        rw [paced] at accepted
        cases accepted
        exact handle_eq_of_bare ((switch_bare _ on now).trans (setPeriod_bare paced))
  · cases accepted
    exact handle_eq_of_bare (switch_bare node on now)

/-- A node keeps its handle. -/
theorem Step.handle {node after : Node} (step : node.Step after) : after.handle = node.handle := by
  cases step with
  | resolved provider => rfl
  | paced set => exact handle_eq_of_bare (setPeriod_bare set)
  | switched on now ready => exact handle_eq_of_bare (switch_bare _ _ _)
  | ran outlet sample => exact handle_eq_of_bare (cycle_bare _ _ _)

theorem Step.forwards {node after : Node} (step : node.Step after) :
    after.forwards = node.forwards := by
  cases step with
  | resolved provider => rfl
  | paced set => rw [← forwards_bare, setPeriod_bare set, forwards_bare]
  | switched on now ready => rw [← forwards_bare, switch_bare, forwards_bare]
  | ran outlet sample => rw [← forwards_bare, cycle_bare, forwards_bare]

theorem Steps.handle {node after : Node} (steps : node.Steps after) :
    after.handle = node.handle := by
  induction steps with
  | refl => rfl
  | tail _ step ih => exact step.handle.trans ih

theorem Steps.forwards {node after : Node} (steps : node.Steps after) :
    after.forwards = node.forwards := by
  induction steps with
  | refl => rfl
  | tail _ step ih => exact step.forwards.trans ih

end Node

namespace Hub

theorem bind_ok {α β : Type} {first : Except Fault α} {next : α → Except Fault β} {last : β}
    (ok : first >>= next = .ok last) : ∃ middle, first = .ok middle ∧ next middle = .ok last := by
  cases first with
  | error fault => cases ok
  | ok middle => exact ⟨middle, rfl, ok⟩

/-! ## Nodes by handle -/

theorem node?_some {hub : Hub} {handle : Int} {node : Node} (found : hub.node? handle = some node) :
    node ∈ hub.nodes ∧ node.handle = handle := by
  have known := List.find?_some found
  exact ⟨List.mem_of_find?_eq_some found, by simpa using known⟩

theorem node_ok {hub : Hub} {handle : Int} {node : Node} (found : hub.node handle = .ok node) :
    hub.node? handle = some node := by
  unfold Hub.node at found
  split at found
  · cases found; assumption
  · cases found

theorem node_of_found {hub : Hub} {handle : Int} {node : Node}
    (found : hub.node? handle = some node) : hub.node handle = .ok node := by
  rw [Hub.node, found]

theorem node_of_none {hub : Hub} {handle : Int} (unknown : hub.node? handle = none) :
    hub.node handle = .error (.unknownHandle handle) := by
  rw [Hub.node, unknown]

theorem node?_eq_none {hub : Hub} {handle : Int} :
    hub.node? handle = none ↔ handle ∉ hub.nodes.map Node.handle := by
  rw [node?, List.find?_eq_none, List.mem_map]
  simp

/-- A handle names one node only. -/
theorem node?_eq {hub : Hub} (distinct : (hub.nodes.map Node.handle).Nodup) {node : Node}
    (known : node ∈ hub.nodes) : hub.node? node.handle = some node := by
  cases found : hub.node? node.handle with
  | none => exact absurd (List.find?_eq_none.1 found node known) (by simp)
  | some other =>
      obtain ⟨listed, same⟩ := node?_some found
      rw [List.inj_on_of_nodup_map distinct listed known same]

/-- Where handles are distinct, a node put in the place of the one with its
handle is in no other place. -/
theorem put_nodes {hub : Hub} (distinct : (hub.nodes.map Node.handle).Nodup) {node after : Node}
    (known : node ∈ hub.nodes) (handle : after.handle = node.handle) :
    (hub.put after).nodes = hub.nodes.map fun old => if old = node then after else old := by
  apply List.map_congr_left
  intro old listed
  rw [handle]
  congr 1
  exact propext ⟨List.inj_on_of_nodup_map distinct listed known, congrArg Node.handle⟩

/-- A node that was put in its place is found there, and others as before. -/
theorem node?_put (hub : Hub) (after : Node) (handle : Int) :
    (hub.put after).node? handle =
      if after.handle = handle then (hub.node? handle).map fun _ => after else hub.node? handle := by
  have same : ∀ old : Node, (if old.handle = after.handle then after else old).handle = old.handle := by
    intro old
    split
    · rename_i here
      exact here.symm
    · rfl
  have search : (hub.put after).node? handle =
      (hub.node? handle).map fun old => if old.handle = after.handle then after else old := by
    rw [node?, put, List.find?_map]
    congr 2
    funext old
    rw [Function.comp_apply, same]
  rw [search]
  cases found : hub.node? handle with
  | none => simp
  | some old =>
      obtain ⟨-, rfl⟩ := node?_some found
      simp only [Option.map_some, eq_comm]
      split <;> rfl

/-- What a changed node has in common with the one it replaces, all nodes keep. -/
theorem put_map {α : Type} {hub : Hub} (distinct : (hub.nodes.map Node.handle).Nodup)
    {node after : Node} (known : node ∈ hub.nodes) (handle : after.handle = node.handle)
    (f : Node → α) (same : f after = f node) :
    (hub.put after).nodes.map f = hub.nodes.map f := by
  rw [put_nodes distinct known handle, List.map_map]
  apply List.map_congr_left
  intro old listed
  rw [Function.comp_apply]
  split
  · rename_i here
    rw [same, here]
  · rfl

/-! ## Operations that were not refused -/

theorem meet_value (provider : Descriptor) (nodes : List Node) :
    (meet provider nodes).value = nodes.map fun node =>
      if node.triggerKind = some provider.kind then (node.resolve provider).value else node := by
  induction nodes with
  | nil => rfl
  | cons node rest ih =>
      rw [meet, List.map_cons, ← ih]
      split <;> rfl

theorem register_ok {hub : Hub} {node : Node} {logged : Logged Hub}
    (accepted : hub.register node = .ok logged) :
    hub.usesHandle node.handle = false ∧ node.kind ∉ node.dependencies ∧
      ∃ trigger met, node.triggerKind = some trigger ∧
        met = ((hub.source? trigger).elim node fun source => (node.resolve source).value) ∧
        logged.value = { hub with nodes := hub.nodes ++ [met] } := by
  unfold register at accepted
  split at accepted
  · cases accepted
  · rename_i unused
    split at accepted
    · cases accepted
    · rename_i trigger triggered
      split at accepted
      · cases accepted
      · rename_i independent
        cases accepted
        refine ⟨by simpa using unused, by simpa using independent, trigger, _, triggered, rfl, ?_⟩
        cases hub.source? trigger <;> rfl

theorem registerProvider_ok {hub : Hub} {provider : Descriptor} {logged : Logged Hub}
    (accepted : hub.registerProvider provider = .ok logged) :
    hub.provider? provider.kind = none ∧ hub.usesHandle provider.handle = false ∧
      logged.value = { hub with
        nodes := hub.nodes.map fun node =>
          if node.triggerKind = some provider.kind then (node.resolve provider).value else node
        providers := provider.insertByHandle hub.providers } := by
  unfold registerProvider at accepted
  split at accepted
  · cases accepted
  · rename_i first
    split at accepted
    · cases accepted
    · rename_i unused
      cases accepted
      refine ⟨by simpa using first, by simpa using unused, ?_⟩
      rw [Logged.value_bind, Logged.value_pure, meet_value]

/-- A node that is to be enabled without a period has the default one set. -/
theorem switch_ok {hub : Hub} {handle now : Int} {on : Bool} {logged : Logged Hub}
    (accepted : hub.switch handle on now = .ok logged) :
    ∃ node paced, hub.node? handle = some node ∧
      logged.value = hub.put (paced.switch on now).value ∧
      ((on = true → node.period ≠ 0) ∧ paced = node ∨
        (on = true ∧ node.period = 0) ∧
          ∃ set, node.setPeriod hub.defaultPeriod = .ok set ∧ paced = set.value.1) := by
  obtain ⟨node, found, accepted⟩ := bind_ok accepted
  dsimp only at accepted
  split at accepted
  · rename_i unpaced
    obtain ⟨set, paced, accepted⟩ := bind_ok accepted
    cases accepted
    exact ⟨node, _, node_ok found, rfl, .inr ⟨unpaced, set, paced, rfl⟩⟩
  · rename_i ready
    cases accepted
    exact ⟨node, _, node_ok found, rfl, .inl ⟨fun enabled zero => ready ⟨enabled, zero⟩, rfl⟩⟩

theorem setPeriod_ok {hub : Hub} {handle period : Int} {logged : Logged (Hub × Int)}
    (accepted : hub.setPeriod handle period = .ok logged) :
    ∃ node set, hub.node? handle = some node ∧ node.setPeriod period = .ok set ∧
      logged.value = (hub.put set.value.1, set.value.2) := by
  obtain ⟨node, found, accepted⟩ := bind_ok accepted
  obtain ⟨set, paced, accepted⟩ := bind_ok accepted
  cases accepted
  exact ⟨node, set, node_ok found, paced, rfl⟩

theorem flush_ok {hub after : Hub} {handle now : Int}
    (accepted : hub.flush handle now = .ok after) :
    ∃ node pipe, hub.node? handle = some node ∧ node.isEnabled = true ∧
      hub.pipe.write (.flushMark handle now) = .ok pipe ∧ after = { hub with pipe := pipe } := by
  obtain ⟨node, found, accepted⟩ := bind_ok accepted
  obtain ⟨pipe, flushed, accepted⟩ := bind_ok accepted
  cases accepted
  obtain ⟨-, same⟩ := node?_some (node_ok found)
  unfold Node.flush at flushed
  split at flushed
  · rename_i enabled
    exact ⟨node, pipe, node_ok found, enabled, same ▸ flushed, rfl⟩
  · cases flushed

/-! ## Commands -/

/-- What a command can do to a hub, and what it answers. -/
inductive Effect (hub : Hub) (now : Int) : Command → Hub → Reply → Prop
  | refused (command : Command) (fault : Fault) : Effect hub now command hub (.refused fault)
  | registered {node : Node} {trigger : SensorKind}
      (unused : hub.usesHandle node.handle = false)
      (independent : node.kind ∉ node.dependencies)
      (triggered : node.triggerKind = some trigger) :
      Effect hub now (.register node) { hub with nodes := hub.nodes ++
        [(hub.source? trigger).elim node fun source => (node.resolve source).value] } .done
  | provided {provider : Descriptor}
      (first : hub.provider? provider.kind = none)
      (unused : hub.usesHandle provider.handle = false) :
      Effect hub now (.registerProvider provider) { hub with
        nodes := hub.nodes.map fun node =>
          if node.triggerKind = some provider.kind then (node.resolve provider).value else node
        providers := provider.insertByHandle hub.providers } .done
  | switched {node paced : Node} {handle : Int} {on : Bool}
      (found : hub.node? handle = some node)
      (ready : (on = true → node.period ≠ 0) ∧ paced = node ∨
        (on = true ∧ node.period = 0) ∧
          ∃ set, node.setPeriod hub.defaultPeriod = .ok set ∧ paced = set.value.1) :
      Effect hub now (.switch handle on) (hub.put (paced.switch on now).value) .done
  | paced {node : Node} {handle period : Int} {set : Logged (Node × Int)}
      (found : hub.node? handle = some node)
      (accepted : node.setPeriod period = .ok set) :
      Effect hub now (.setPeriod handle period) (hub.put set.value.1) (.period set.value.2)
  | flushed {node : Node} {handle : Int} {pipe : Pipe}
      (found : hub.node? handle = some node)
      (enabled : node.isEnabled = true)
      (written : hub.pipe.write (.flushMark handle now) = .ok pipe) :
      Effect hub now (.flush handle) { hub with pipe := pipe } .done
  | delivered (source : SensorKind) (sample : Sample) :
      Effect hub now (.deliver source sample) (hub.deliver source sample).value.1
        (.cycles (hub.deliver source sample).value.2)
  | polled (max : Nat) :
      Effect hub now (.poll max) { hub with pipe := { hub.pipe with queue := hub.pipe.queue.drop max } }
        (.events (hub.pipe.queue.take max))

theorem settle_ok {α : Type} {hub : Hub} {outcome : Except Fault (Logged α)} {logged : Logged α}
    {answer : α → Hub × Reply} (accepted : outcome = .ok logged) :
    (hub.settle outcome answer).value = answer logged.value := by
  rw [accepted, settle, Logged.value_map]

theorem settle_error {α : Type} {hub : Hub} {outcome : Except Fault (Logged α)} {fault : Fault}
    {answer : α → Hub × Reply} (refused : outcome = .error fault) :
    (hub.settle outcome answer).value = (hub, .refused fault) := by
  rw [refused, settle, Logged.value_pure]

theorem perform_effect (hub : Hub) (now : Int) (command : Command) :
    hub.Effect now command (hub.perform now command).value.1 (hub.perform now command).value.2 := by
  cases command with
  | register node =>
      cases outcome : hub.register node with
      | error fault => rw [perform, settle_error outcome]; exact .refused _ fault
      | ok logged =>
          obtain ⟨unused, independent, trigger, met, triggered, rfl, value⟩ := register_ok outcome
          rw [perform, settle_ok outcome, value]
          exact .registered unused independent triggered
  | registerProvider provider =>
      cases outcome : hub.registerProvider provider with
      | error fault => rw [perform, settle_error outcome]; exact .refused _ fault
      | ok logged =>
          obtain ⟨first, unused, value⟩ := registerProvider_ok outcome
          rw [perform, settle_ok outcome, value]
          exact .provided first unused
  | switch handle on =>
      cases outcome : hub.switch handle on now with
      | error fault => rw [perform, settle_error outcome]; exact .refused _ fault
      | ok logged =>
          obtain ⟨node, paced, found, value, ready⟩ := switch_ok outcome
          rw [perform, settle_ok outcome, value]
          exact .switched found ready
  | setPeriod handle period =>
      cases outcome : hub.setPeriod handle period with
      | error fault => rw [perform, settle_error outcome]; exact .refused _ fault
      | ok logged =>
          obtain ⟨node, set, found, accepted, value⟩ := setPeriod_ok outcome
          rw [perform, settle_ok outcome, value]
          exact .paced found accepted
  | flush handle =>
      cases outcome : hub.flush handle now with
      | error fault => rw [perform, outcome, Except.map, settle_error rfl]; exact .refused _ fault
      | ok after =>
          obtain ⟨node, pipe, found, enabled, written, rfl⟩ := flush_ok outcome
          rw [perform, outcome, Except.map, settle_ok rfl, Logged.value_pure]
          exact .flushed found enabled written
  | deliver source sample => exact .delivered source sample
  | poll max => exact .polled max

/-! ## Control of one node -/

section ByHandle

variable {hub : Hub} {handle : Int} {node : Node}

/-- A handle that no node has is refused. -/
theorem setPeriod_unknown (unknown : hub.node? handle = none) (period : Int) :
    hub.setPeriod handle period = .error (.unknownHandle handle) := by
  rw [setPeriod, node_of_none unknown]
  rfl

/-- An operation on a node that is there is that of the node, which is put back. -/
theorem setPeriod_found (found : hub.node? handle = some node) (period : Int) :
    hub.setPeriod handle period = (node.setPeriod period).map
      ((fun (after, effective) => (hub.put after, effective)) <$> ·) := by
  rw [setPeriod, node_of_found found]
  simp only [bind, Except.bind]
  cases node.setPeriod period <;> rfl

theorem switch_unknown (unknown : hub.node? handle = none) (on : Bool) (now : Int) :
    hub.switch handle on now = .error (.unknownHandle handle) := by
  rw [switch, node_of_none unknown]
  rfl

theorem switch_found (found : hub.node? handle = some node) (on : Bool) (now : Int) :
    hub.switch handle on now = (node.started hub.defaultPeriod on now).map (hub.put <$> ·) := by
  rw [switch, node_of_found found, Node.started]
  show (if on = true ∧ node.period = 0 then _ else _) = _
  split
  · cases node.setPeriod hub.defaultPeriod with
    | error fault => rfl
    | ok set =>
        refine congrArg Except.ok ?_
        dsimp only
        rw [map_bind]
        rfl
  · rfl

theorem flush_unknown (unknown : hub.node? handle = none) (now : Int) :
    hub.flush handle now = .error (.unknownHandle handle) := by
  rw [flush, node_of_none unknown]
  rfl

theorem flush_found (found : hub.node? handle = some node) (now : Int) :
    hub.flush handle now =
      if node.isEnabled then
        (hub.pipe.write (.flushMark node.handle now)).map fun pipe => { hub with pipe := pipe }
      else .error (.notEnabled node.handle) := by
  rw [flush, node_of_found found]
  show node.flush hub.pipe now >>= _ = _
  rw [Node.flush]
  split
  · show hub.pipe.write (.flushMark node.handle now) >>= _ = _
    cases hub.pipe.write (.flushMark node.handle now) <;> rfl
  · rfl

end ByHandle

/-- The hub with the node of a handle changed, if there is one. -/
def change (hub : Hub) (handle : Int) (f : Node → Node) : Hub :=
  (hub.node? handle).elim hub fun node => hub.put (f node)

/-- A node switched as a hub does it, with the default period if it has none. -/
def readied (period : Int) (on : Bool) (now : Int) (node : Node) : Node :=
  ((if on = true ∧ node.period = 0 then node.paced period else node).switch on now).value

theorem started_readied {period : Int} (positive : 0 < period) (on : Bool) (now : Int) (node : Node) :
    ∃ logged, node.started period on now = .ok logged ∧ logged.value = readied period on now node := by
  rw [Node.started, readied]
  obtain ⟨set, accepted, value⟩ := node.setPeriod_pos positive
  split
  · rw [accepted]
    refine ⟨_, rfl, ?_⟩
    rw [Logged.value_bind, value]
  · exact ⟨_, rfl, rfl⟩

theorem perform_switch {hub : Hub} (positive : 0 < hub.defaultPeriod) (now handle : Int) (on : Bool) :
    (hub.perform now (.switch handle on)).value.1 =
      hub.change handle (readied hub.defaultPeriod on now) := by
  cases found : hub.node? handle with
  | none =>
      rw [perform, settle_error (switch_unknown found on now), change, found, Option.elim_none]
  | some node =>
      obtain ⟨logged, started, value⟩ := started_readied positive on now node
      have switched := switch_found found on now
      rw [started] at switched
      rw [perform, settle_ok switched, Logged.value_map, value, change, found, Option.elim_some]

theorem perform_setPeriod (hub : Hub) (now handle period : Int) :
    (hub.perform now (.setPeriod handle period)).value.1 =
      if 0 < period then hub.change handle (·.paced period) else hub := by
  cases found : hub.node? handle with
  | none =>
      rw [perform, settle_error (setPeriod_unknown found period), change, found, Option.elim_none,
        ite_self]
  | some node =>
      have paced := setPeriod_found found period
      by_cases positive : 0 < period
      · obtain ⟨set, accepted, value⟩ := node.setPeriod_pos positive
        rw [accepted] at paced
        rw [perform, settle_ok paced, Logged.value_map, value, if_pos positive, change, found,
          Option.elim_some]
      · rw [Node.setPeriod, if_pos (by omega)] at paced
        rw [perform, settle_error paced, if_neg positive]

/-! ## Nodes under a command -/

/-- Every member of a list comes from one of a list related to it. -/
theorem exists_before {α β : Type} {R : α → β → Prop} {before : List α} {after : List β}
    (related : List.Forall₂ R before after) {b : β} (listed : b ∈ after) : ∃ a ∈ before, R a b := by
  induction related with
  | nil => cases listed
  | cons first _ ih =>
      rcases List.mem_cons.1 listed with rfl | later
      · exact ⟨_, List.mem_cons_self, first⟩
      · obtain ⟨a, known, related⟩ := ih later
        exact ⟨a, List.mem_cons_of_mem _ known, related⟩

/-- Lists that look the same have members that look the same. -/
theorem exists_alike {α β : Type} {f : α → β} {list other : List α} (same : list.map f = other.map f)
    {a : α} (listed : a ∈ list) : ∃ b ∈ other, f b = f a := by
  have seen : f a ∈ other.map f := same ▸ List.mem_map_of_mem listed
  exact List.mem_map.1 seen

theorem handles_steps {before after : List Node} (steps : List.Forall₂ Node.Steps before after) :
    after.map Node.handle = before.map Node.handle := by
  induction steps with
  | nil => rfl
  | cons step _ ih => rw [List.map_cons, List.map_cons, ih, step.handle]

/-- A hub moves to another one whose first nodes are its own, each some steps
further, with perhaps one more. -/
def Moves (hub after : Hub) (added : Option Node) : Prop :=
  ∃ kept, after.nodes = kept ++ added.toList ∧ List.Forall₂ Node.Steps hub.nodes kept

theorem Moves.refl (hub : Hub) : hub.Moves hub none :=
  ⟨hub.nodes, (List.append_nil _).symm, List.forall₂_refl _⟩

/-- All nodes stay where they are, each some steps further. -/
theorem Moves.map {hub after : Hub} (f : Node → Node) (nodes : after.nodes = hub.nodes.map f)
    (steps : ∀ node ∈ hub.nodes, node.Steps (f node)) : hub.Moves after none := by
  refine ⟨hub.nodes.map f, nodes.trans (List.append_nil _).symm, ?_⟩
  rw [List.forall₂_map_right_iff]
  exact List.forall₂_same.2 steps

theorem Moves.put {hub : Hub} (distinct : (hub.nodes.map Node.handle).Nodup) {node after : Node}
    (known : node ∈ hub.nodes) (steps : node.Steps after) : hub.Moves (hub.put after) none := by
  refine Moves.map _ (put_nodes distinct known steps.handle) ?_
  intro old listed
  split
  · rename_i same
    exact same ▸ steps
  · exact .refl

namespace Moves

variable {hub after : Hub} {added : Option Node}

/-- A node after a move is one that was there, some steps further, or a new one. -/
theorem node (moves : hub.Moves after added) {node : Node} (listed : node ∈ after.nodes) :
    (∃ old ∈ hub.nodes, old.Steps node) ∨ added = some node := by
  obtain ⟨kept, nodes, steps⟩ := moves
  rw [nodes] at listed
  exact (List.mem_append.1 listed).imp (exists_before steps) Option.mem_toList.1

/-- No node goes away. -/
theorem later (moves : hub.Moves after added) {node : Node} (listed : node ∈ hub.nodes) :
    ∃ now ∈ after.nodes, node.Steps now := by
  obtain ⟨kept, nodes, steps⟩ := moves
  obtain ⟨now, known, steps⟩ := exists_before steps.flip listed
  exact ⟨now, nodes ▸ List.mem_append_left _ known, steps⟩

theorem handles (moves : hub.Moves after added) :
    after.nodes.map Node.handle = hub.nodes.map Node.handle ++ added.toList.map Node.handle := by
  obtain ⟨kept, nodes, steps⟩ := moves
  rw [nodes, List.map_append, handles_steps steps]

end Moves

section Turns

variable {σ : Type} [Outlet σ]

theorem takeTurns_ran (turns : List Turn) (state : List Node × σ) {place : Nat} {node : Node}
    (found : state.1[place]? = some node) :
    ∃ after, (takeTurns turns state).value.1[place]? = some after ∧ node.Steps after := by
  induction turns generalizing state node with
  | nil => exact ⟨node, found, .refl⟩
  | cons turn rest ih =>
      have step := getElem?_takeTurn turn state place
      rw [found, Option.map_some] at step
      by_cases here : turn.place = place
      · rw [if_pos here] at step
        obtain ⟨after, last, steps⟩ := ih _ step
        exact ⟨after, last, .head (.ran state.2 turn.sample) steps⟩
      · rw [if_neg here] at step
        exact ih _ step

theorem takeTurns_steps (turns : List Turn) (state : List Node × σ) :
    List.Forall₂ Node.Steps state.1 (takeTurns turns state).value.1 := by
  refine List.forall₂_iff_get.2 ⟨(length_takeTurns turns state).symm, ?_⟩
  intro place before within
  obtain ⟨after, last, steps⟩ := takeTurns_ran turns state (List.getElem?_eq_getElem before)
  rw [List.getElem?_eq_getElem within] at last
  cases last
  exact steps

end Turns

/-- **A command moves each node by steps**, and adds no node but one that is
registered under a handle not in use. -/
theorem Effect.moves {hub after : Hub} {now : Int} {command : Command} {reply : Reply}
    (effect : hub.Effect now command after reply) (distinct : (hub.nodes.map Node.handle).Nodup) :
    ∃ added, hub.Moves after added ∧
      ∀ node, added = some node → ∃ built, command = .register built ∧ built.Steps node ∧
        hub.usesHandle built.handle = false := by
  have still : ∀ node, none = some node → ∃ built, command = .register built ∧ built.Steps node ∧
      hub.usesHandle built.handle = false := by simp
  cases effect with
  | refused fault => exact ⟨none, .refl hub, still⟩
  | @registered built trigger unused independent triggered =>
      refine ⟨some _, ⟨hub.nodes, rfl, List.forall₂_refl _⟩, ?_⟩
      rintro node ⟨⟩
      refine ⟨built, rfl, ?_, unused⟩
      cases hub.source? trigger with
      | none => exact .refl
      | some source => exact .single (.resolved source)
  | @provided provider first unused =>
      refine ⟨none, Moves.map _ rfl ?_, still⟩
      intro node listed
      split
      · exact .single (.resolved provider)
      · exact .refl
  | @switched node paced handle on found ready =>
      refine ⟨none, Moves.put distinct (node?_some found).1 ?_, still⟩
      rcases ready with ⟨ready, rfl⟩ | ⟨unpaced, set, accepted, rfl⟩
      · exact .single (.switched on now ready)
      · refine .tail (.single (.paced accepted)) (.switched on now ?_)
        intro _
        obtain ⟨positive, value⟩ := Node.setPeriod_ok accepted
        have least := node.descriptor.clampPeriod_pos positive
        rw [value]
        show node.descriptor.clampPeriod hub.defaultPeriod ≠ 0
        omega
  | @paced node handle period set found accepted =>
      exact ⟨none, Moves.put distinct (node?_some found).1 (.single (.paced accepted)), still⟩
  | flushed found enabled written => exact ⟨none, .refl hub, still⟩
  | delivered source sample =>
      obtain ⟨turns, delivered⟩ := hub.deliver_some_turns source sample
      refine ⟨none, ⟨_, ?_, takeTurns_steps turns (hub.nodes, hub.pipe)⟩, still⟩
      rw [delivered]
      exact (List.append_nil _).symm
  | polled max => exact ⟨none, .refl hub, still⟩

end Hub

end FusionSensors
