/-
# FusionSensors.Proofs.Registration -- sensors that may come in any order

Sensors are independent if their handles are distinct, no two providers give
the same kind, and no node is driven by another one. Independent sensors may be
registered in any order (`registrations_commute`): every registration is
accepted, and in the end each node has met its provider once, whichever of the
two came first (`settled`).

`Holds.register` and `Holds.provide` say this of one registration, from either
side; `Holds.run` of any number.
-/
import FusionSensors.Proofs.Reachable

namespace FusionSensors

set_option autoImplicit false

/-- The first member with a key does not depend on the order, where keys are distinct. -/
theorem find?_perm {α β : Type} [BEq β] [LawfulBEq β] (key : α → β) {first second : List α}
    (perm : first.Perm second) (distinct : (first.map key).Nodup) (k : β) :
    first.find? (key · == k) = second.find? (key · == k) := by
  induction perm with
  | nil => rfl
  | cons a _ ih => rw [List.find?_cons, List.find?_cons, ih (List.nodup_cons.1 distinct).2]
  | swap a b rest =>
      have apart : key b ≠ key a := by
        intro same
        exact (List.nodup_cons.1 distinct).1 (by simp [same])
      by_cases here : key a = k
      · have there : key b ≠ k := fun same => apart (same.trans here.symm)
        simp [here, there]
      · simp [List.find?_cons, here]
  | trans perm _ ih ih' => rw [ih distinct, ih' ((perm.map key).nodup_iff.1 distinct)]

namespace Hub

/-! ## One registration that is accepted -/

theorem register_accepts {hub : Hub} {node : Node} {trigger : SensorKind}
    (unused : hub.usesHandle node.handle = false) (triggered : node.triggerKind = some trigger)
    (independent : node.kind ∉ node.dependencies) :
    ∃ logged, hub.register node = .ok logged := by
  rw [register, if_neg (by simp [unused]), triggered]
  simp only
  rw [if_neg (by simpa using independent)]
  exact ⟨_, rfl⟩

theorem registerProvider_accepts {hub : Hub} {provider : Descriptor}
    (first : hub.provider? provider.kind = none)
    (unused : hub.usesHandle provider.handle = false) :
    ∃ logged, hub.registerProvider provider = .ok logged := by
  rw [registerProvider, if_neg (by simp [first]), if_neg (by simp [unused])]
  exact ⟨_, rfl⟩

/-! ## Independent sensors -/

/-- No node depends on another one, and nothing is claimed twice. -/
structure Independent (nodes : List Node) (providers : List Descriptor) : Prop where
  handles : (providers.map Descriptor.handle ++ nodes.map Node.handle).Nodup
  kinds : (providers.map Descriptor.kind).Nodup
  triggered : ∀ node ∈ nodes, node.triggerKind ≠ none
  selfless : ∀ node ∈ nodes, node.kind ∉ node.dependencies
  undriven : ∀ node ∈ nodes, ∀ other ∈ nodes, node.triggerKind ≠ some other.kind

namespace Independent

variable {nodes others : List Node} {providers upstream : List Descriptor}

/-- Fewer sensors are as independent. -/
theorem sublist (independent : Independent nodes providers) (fewer : others.Sublist nodes)
    (part : upstream.Sublist providers) : Independent others upstream where
  handles := independent.handles.sublist ((part.map _).append (fewer.map _))
  kinds := independent.kinds.sublist (part.map _)
  triggered := fun node listed => independent.triggered node (fewer.subset listed)
  selfless := fun node listed => independent.selfless node (fewer.subset listed)
  undriven := fun node listed other within =>
    independent.undriven node (fewer.subset listed) other (fewer.subset within)

/-- Sensors in another order are as independent. -/
theorem perm (independent : Independent nodes providers) (shuffled : nodes.Perm others)
    (moved : providers.Perm upstream) : Independent others upstream where
  handles := ((moved.map _).append (shuffled.map _)).nodup_iff.1 independent.handles
  kinds := (moved.map _).nodup_iff.1 independent.kinds
  triggered := fun node listed => independent.triggered node (shuffled.mem_iff.2 listed)
  selfless := fun node listed => independent.selfless node (shuffled.mem_iff.2 listed)
  undriven := fun node listed other within =>
    independent.undriven node (shuffled.mem_iff.2 listed) other (shuffled.mem_iff.2 within)

end Independent

/-- The node after it has met its provider, if that is among some. -/
def settled (providers : List Descriptor) (node : Node) : Node :=
  (node.triggerKind.bind fun trigger => providers.find? (·.kind == trigger)).elim node
    fun provider => (node.resolve provider).value

@[simp] theorem handle_settled (providers : List Descriptor) (node : Node) :
    (settled providers node).handle = node.handle := by
  unfold settled
  cases node.triggerKind.bind fun trigger => providers.find? (·.kind == trigger) <;> rfl

@[simp] theorem kind_settled (providers : List Descriptor) (node : Node) :
    (settled providers node).kind = node.kind := by
  unfold settled
  cases node.triggerKind.bind fun trigger => providers.find? (·.kind == trigger) <;> rfl

@[simp] theorem triggerKind_settled (providers : List Descriptor) (node : Node) :
    (settled providers node).triggerKind = node.triggerKind := by
  unfold settled
  cases node.triggerKind.bind fun trigger => providers.find? (·.kind == trigger) <;> rfl

theorem settled_perm {providers upstream : List Descriptor} (perm : providers.Perm upstream)
    (distinct : (providers.map Descriptor.kind).Nodup) : settled providers = settled upstream := by
  funext node
  simp only [settled, find?_perm Descriptor.kind perm distinct]

/-- A provider of a new kind is met by the nodes that it triggers, which had no
provider before, and by no others. -/
theorem settled_insert {provider : Descriptor} {providers : List Descriptor}
    (first : providers.find? (·.kind == provider.kind) = none) (node : Node) :
    settled (provider.insertByHandle providers) node =
      if node.triggerKind = some provider.kind then ((settled providers node).resolve provider).value
      else settled providers node := by
  cases triggered : node.triggerKind with
  | none => simp [settled, triggered]
  | some trigger =>
      have found := Descriptor.find?_insertByHandle first trigger
      by_cases same : provider.kind = trigger
      · subst same
        rw [if_pos rfl] at found
        simp [settled, triggered, found, first]
      · rw [if_neg same] at found
        simp [settled, triggered, found, Ne.symm same]

/-! ## Registering them -/

/-- The hub holds these sensors, each node settled with the providers there are. -/
structure Holds (hub : Hub) (nodes : List Node) (providers : List Descriptor) : Prop where
  nodes : hub.nodes = nodes.map (settled hub.providers)
  providers : hub.providers.Perm providers

namespace Holds

variable {hub : Hub} {nodes : List Node} {providers : List Descriptor}

theorem bare (capacity : Nat) (period : Int) : (Hub.bare capacity period).Holds [] [] :=
  ⟨rfl, .refl _⟩

theorem handles (holds : hub.Holds nodes providers) :
    (hub.descriptors.map Descriptor.handle).Perm
      (providers.map Descriptor.handle ++ nodes.map Node.handle) := by
  have kept : (nodes.map (settled hub.providers)).map Node.handle = nodes.map Node.handle := by
    simp [Function.comp_def]
  rw [handles_descriptors, holds.nodes, kept]
  exact (holds.providers.map _).append_right _

/-- A node that comes later than its provider meets it when it is registered. -/
theorem register (holds : hub.Holds nodes providers) {node : Node}
    (independent : Independent (nodes ++ [node]) providers) (now : Int) :
    (hub.perform now (.register node)).value.2 = .done ∧
      (hub.perform now (.register node)).value.1.Holds (nodes ++ [node]) providers := by
  have last : node ∈ nodes ++ [node] := List.mem_append_right _ List.mem_cons_self
  have unused : hub.usesHandle node.handle = false := by
    rw [usesHandle_eq_false, holds.handles.mem_iff]
    have distinct := independent.handles
    rw [List.map_append, ← List.append_assoc, List.map_singleton] at distinct
    exact fun used => (List.nodup_append.1 distinct).2.2 _ used _ List.mem_cons_self rfl
  obtain ⟨trigger, triggered⟩ := Option.ne_none_iff_exists'.1 (independent.triggered node last)
  obtain ⟨logged, accepted⟩ := register_accepts unused triggered (independent.selfless node last)
  obtain ⟨-, -, driver, met, drives, rfl, value⟩ := register_ok accepted
  obtain rfl : trigger = driver := Option.some.inj (triggered.symm.trans drives)
  have alone : hub.nodes.find? (·.kind == trigger) = none := by
    rw [List.find?_eq_none, holds.nodes]
    intro other listed same
    obtain ⟨old, known, rfl⟩ := List.mem_map.1 listed
    rw [kind_settled, beq_iff_eq] at same
    exact independent.undriven node last old (List.mem_append_left _ known) (same ▸ triggered)
  have met : (hub.source? trigger).elim node (fun source => (node.resolve source).value) =
      settled hub.providers node := by
    rw [source?, alone, Option.map_none, Option.or_none, settled, triggered]
    rfl
  rw [perform, settle_ok accepted, value, met]
  refine ⟨rfl, ?_, holds.providers⟩
  simp only [holds.nodes, List.map_append, List.map_singleton]

/-- A node that comes earlier than its provider meets it when that is registered. -/
theorem provide (holds : hub.Holds nodes providers) {provider : Descriptor}
    (independent : Independent nodes (providers ++ [provider])) (now : Int) :
    (hub.perform now (.registerProvider provider)).value.2 = .done ∧
      (hub.perform now (.registerProvider provider)).value.1.Holds nodes
        (providers ++ [provider]) := by
  have moved : (hub.providers ++ [provider]).Perm (provider :: hub.providers) :=
    List.perm_append_singleton _ _
  have kinds : ((provider :: hub.providers).map Descriptor.kind).Nodup :=
    ((moved.symm.trans (holds.providers.append_right _)).map _).nodup_iff.2 independent.kinds
  have unused : hub.usesHandle provider.handle = false := by
    rw [usesHandle_eq_false, holds.handles.mem_iff]
    intro used
    have distinct : (provider.handle ::
        (providers.map Descriptor.handle ++ nodes.map Node.handle)).Nodup := by
      have shuffled : ((providers ++ [provider]).map Descriptor.handle ++ nodes.map Node.handle).Perm
          (provider.handle :: (providers.map Descriptor.handle ++ nodes.map Node.handle)) :=
        ((List.perm_append_singleton provider providers).map Descriptor.handle).append_right _
      exact shuffled.nodup_iff.1 independent.handles
    exact (List.nodup_cons.1 distinct).1 used
  have first : hub.provider? provider.kind = none := by
    rw [Hub.provider?, List.find?_eq_none]
    intro other listed same
    rw [beq_iff_eq] at same
    exact (List.nodup_cons.1 kinds).1 (same ▸ List.mem_map_of_mem listed)
  obtain ⟨logged, accepted⟩ := registerProvider_accepts first unused
  obtain ⟨-, -, value⟩ := registerProvider_ok accepted
  rw [perform, settle_ok accepted, value]
  refine ⟨rfl, ?_, ?_⟩
  · rw [holds.nodes, List.map_map]
    apply List.map_congr_left
    intro node listed
    rw [Function.comp_apply, triggerKind_settled, settled_insert first]
  · exact (provider.insertByHandle_perm _).trans
      (moved.symm.trans (holds.providers.append_right _))

end Holds

/-! ## Any number of registrations -/

/-- Whether a command registers a sensor. -/
def Command.Adds : Command → Prop
  | .register _ | .registerProvider _ => True
  | _ => False

/-- The nodes that are registered by some commands, in order. -/
def nodesOf (order : List (Int × Command)) : List Node :=
  order.filterMap fun (_, command) =>
    match command with
    | .register node => some node
    | _ => none

/-- The providers that are registered by some commands, in order. -/
def providersOf (order : List (Int × Command)) : List Descriptor :=
  order.filterMap fun (_, command) =>
    match command with
    | .registerProvider provider => some provider
    | _ => none

/-- Independent sensors are accepted one and all. -/
theorem Holds.run {hub : Hub} {nodes : List Node} {providers : List Descriptor}
    (holds : hub.Holds nodes providers) {order : List (Int × Command)}
    (adding : ∀ entry ∈ order, entry.2.Adds)
    (independent : Independent (nodes ++ nodesOf order) (providers ++ providersOf order)) :
    (∀ reply ∈ hub.replies order, reply = .done) ∧
      (hub.run order).Holds (nodes ++ nodesOf order) (providers ++ providersOf order) := by
  induction order generalizing hub nodes providers with
  | nil =>
      refine ⟨by simp [replies], ?_⟩
      simpa [nodesOf, providersOf, Hub.run] using holds
  | cons entry rest ih =>
      obtain ⟨now, command⟩ := entry
      have later : ∀ entry ∈ rest, entry.2.Adds :=
        fun entry within => adding entry (List.mem_cons_of_mem _ within)
      cases command with
      | register node =>
          have nodesFirst : nodes ++ nodesOf ((now, .register node) :: rest) =
              (nodes ++ [node]) ++ nodesOf rest := by simp [nodesOf]
          have same : providersOf ((now, .register node) :: rest) = providersOf rest := rfl
          rw [nodesFirst, same] at independent ⊢
          obtain ⟨done, next⟩ := holds.register
            (independent.sublist (List.sublist_append_left _ _) (List.sublist_append_left _ _)) now
          obtain ⟨others, last⟩ := ih next later independent
          exact ⟨List.forall_mem_cons.2 ⟨done, others⟩, last⟩
      | registerProvider provider =>
          have providersFirst : providers ++ providersOf ((now, .registerProvider provider) :: rest) =
              (providers ++ [provider]) ++ providersOf rest := by simp [providersOf]
          have same : nodesOf ((now, .registerProvider provider) :: rest) = nodesOf rest := rfl
          rw [providersFirst, same] at independent ⊢
          obtain ⟨done, next⟩ := holds.provide
            (independent.sublist (List.sublist_append_left _ _) (List.sublist_append_left _ _)) now
          obtain ⟨others, last⟩ := ih next later independent
          exact ⟨List.forall_mem_cons.2 ⟨done, others⟩, last⟩
      | switch | setPeriod | flush | deliver | poll =>
          exact (adding (now, _) List.mem_cons_self).elim

/-- The registrations of some nodes and providers. -/
def registrations (nodes : List Node) (providers : List Descriptor) : List Command :=
  nodes.map .register ++ providers.map .registerProvider

/-- An order of registrations registers the nodes and providers that it should. -/
theorem registrations_perm {nodes : List Node} {providers : List Descriptor}
    {order : List (Int × Command)}
    (perm : (order.map Prod.snd).Perm (registrations nodes providers)) :
    (∀ entry ∈ order, entry.2.Adds) ∧ (nodesOf order).Perm nodes ∧
      (providersOf order).Perm providers := by
  refine ⟨?_, ?_, ?_⟩
  · intro entry listed
    have within := perm.mem_iff.1 (List.mem_map_of_mem (f := Prod.snd) listed)
    rcases List.mem_append.1 within with node | provider
    · obtain ⟨node, -, same⟩ := List.mem_map.1 node
      rw [← same]
      trivial
    · obtain ⟨provider, -, same⟩ := List.mem_map.1 provider
      rw [← same]
      trivial
  · have chosen := perm.filterMap fun command : Command =>
      match command with
      | .register node => some node
      | _ => none
    simpa [registrations, nodesOf, List.filterMap_map, Function.comp_def] using chosen
  · have chosen := perm.filterMap fun command : Command =>
      match command with
      | .registerProvider provider => some provider
      | _ => none
    simpa [registrations, providersOf, List.filterMap_map, Function.comp_def] using chosen

/-! ## Independence of the order -/

/-- What the sensor with a handle declares: its descriptor, its trigger and its
dependencies. A provider has neither. -/
def declared (hub : Hub) (handle : Int) : Option (Descriptor × Option Nat × List SensorKind) :=
  ((hub.providers.find? (·.handle == handle)).map fun provider => (provider, none, [])).or
    ((hub.node? handle).map fun node => (node.descriptor, node.trigger, node.dependencies))

section Order

variable {nodes : List Node} {providers : List Descriptor} {order : List (Int × Command)}

/-- A new hub accepts independent sensors in any order. -/
theorem run_registrations (independent : Independent nodes providers) (capacity : Nat)
    (perm : (order.map Prod.snd).Perm (registrations nodes providers)) :
    (∀ reply ∈ (Hub.new capacity).replies order, reply = .done) ∧
      ((Hub.new capacity).run order).Holds (nodesOf order) (providersOf order) := by
  obtain ⟨adding, sameNodes, sameProviders⟩ := registrations_perm perm
  exact (Holds.bare capacity usualPeriod).run adding
    (independent.perm sameNodes.symm sameProviders.symm)

/-- The sensors of a hub are those that were registered, each node settled. -/
theorem Holds.perm {hub : Hub} {others : List Node} {upstream : List Descriptor}
    (holds : hub.Holds others upstream) (sameNodes : others.Perm nodes)
    (sameProviders : upstream.Perm providers) (independent : Independent nodes providers) :
    hub.nodes.Perm (nodes.map (settled providers)) ∧ hub.providers.Perm providers := by
  have moved := holds.providers.trans sameProviders
  refine ⟨?_, moved⟩
  rw [holds.nodes, settled_perm moved ((moved.map _).nodup_iff.2 independent.kinds)]
  exact sameNodes.map _

end Order

/-- **Independent sensors may be registered in any order.** -/
theorem registrations_commute {nodes : List Node} {providers : List Descriptor}
    (independent : Independent nodes providers) (capacity : Nat) {first second : List (Int × Command)}
    (order : (first.map Prod.snd).Perm (registrations nodes providers))
    (other : (second.map Prod.snd).Perm (registrations nodes providers)) :
    (∀ reply ∈ (Hub.new capacity).replies first, reply = .done) ∧
      (∀ reply ∈ (Hub.new capacity).replies second, reply = .done) ∧
      (∀ handle, ((Hub.new capacity).run first).declared handle =
        ((Hub.new capacity).run second).declared handle) ∧
      ∀ node ∈ nodes, ((Hub.new capacity).run first).node? node.handle =
        some (settled providers node) := by
  obtain ⟨done, holds⟩ := run_registrations independent capacity order
  obtain ⟨done', holds'⟩ := run_registrations independent capacity other
  obtain ⟨-, sameNodes, sameProviders⟩ := registrations_perm order
  obtain ⟨-, sameNodes', sameProviders'⟩ := registrations_perm other
  obtain ⟨listed, provided⟩ := holds.perm sameNodes sameProviders independent
  obtain ⟨listed', provided'⟩ := holds'.perm sameNodes' sameProviders' independent
  obtain ⟨upstream, downstream, -⟩ := List.nodup_append.1 independent.handles
  have distinct : (((Hub.new capacity).run first).nodes.map Node.handle).Nodup := by
    rw [(listed.map Node.handle).nodup_iff, List.map_map]
    simpa [Function.comp_def] using downstream
  refine ⟨done, done', ?_, ?_⟩
  · intro handle
    rw [declared, declared, node?, node?,
      find?_perm Descriptor.handle (provided.trans provided'.symm)
        ((provided.map _).nodup_iff.2 upstream),
      find?_perm Node.handle (listed.trans listed'.symm) distinct]
  · intro node known
    have within : settled providers node ∈ ((Hub.new capacity).run first).nodes :=
      listed.mem_iff.2 (List.mem_map_of_mem known)
    simpa using node?_eq distinct within

/-- Two leaves of a fused provider, and a sensor that follows another provider. -/
def threeNodes : List Node :=
  [ Leaf.gravity.node "gravity" 1, Leaf.gameRotationVector.node "orientation" 2,
    .follower 3 .accelMagnFusion .rotationVector ]

def twoProviders : List Descriptor :=
  [ FusionEntry.descriptor {} "vendor", .ofKind "compass" 8 .accelMagnFusion ]

/-- Providers first. -/
def downstreamOrder : List (Int × Command) :=
  [ (0, .registerProvider (FusionEntry.descriptor {} "vendor")),
    (1, .register (Leaf.gravity.node "gravity" 1)),
    (2, .registerProvider (.ofKind "compass" 8 .accelMagnFusion)),
    (3, .register (.follower 3 .accelMagnFusion .rotationVector)),
    (4, .register (Leaf.gameRotationVector.node "orientation" 2)) ]

/-- Nodes first. -/
def upstreamOrder : List (Int × Command) :=
  [ (5, .register (Leaf.gameRotationVector.node "orientation" 2)),
    (5, .register (.follower 3 .accelMagnFusion .rotationVector)),
    (5, .register (Leaf.gravity.node "gravity" 1)),
    (5, .registerProvider (.ofKind "compass" 8 .accelMagnFusion)),
    (5, .registerProvider (FusionEntry.descriptor {} "vendor")) ]

theorem upstreamOrder_commutes : Independent threeNodes twoProviders ∧
    (downstreamOrder.map Prod.snd).Perm (registrations threeNodes twoProviders) ∧
    (upstreamOrder.map Prod.snd).Perm (registrations threeNodes twoProviders) ∧
    (∀ reply ∈ (Hub.new 4).replies upstreamOrder, reply = .done) ∧
    (∀ handle, ((Hub.new 4).run downstreamOrder).declared handle =
      ((Hub.new 4).run upstreamOrder).declared handle) ∧
    (((Hub.new 4).run upstreamOrder).node? 1).map (·.descriptor.minDelay) = some 2500 := by
  have independent : Independent threeNodes twoProviders := by
    constructor <;> decide
  have order : (downstreamOrder.map Prod.snd).Perm (registrations threeNodes twoProviders) := by
    decide
  have other : (upstreamOrder.map Prod.snd).Perm (registrations threeNodes twoProviders) := by
    decide
  obtain ⟨-, done, declared, -⟩ := registrations_commute independent 4 order other
  exact ⟨independent, order, other, done, declared, by decide⟩

end Hub

end FusionSensors
