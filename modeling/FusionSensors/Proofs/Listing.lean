/-
# FusionSensors.Proofs.Listing -- every sensor is listed once

In every hub that commands lead to, no two sensors share a handle, no two
providers give the same kind, and every node has a trigger and does not need
its own output (`Orderly`). What a node is registered as, it stays, and a
provider does not change at all; so the list of sensors holds what was
registered and nothing else (`run_listed`).

Providers are kept by ascending handle, and as handles are distinct there is
only one such order: sorting them anew, from whatever order a table of them
yields, gives the same list (`listing_eq`).
-/
import FusionSensors.Proofs.Isolation
import FusionSensors.Proofs.Registration

namespace FusionSensors

set_option autoImplicit false

/-! ## What a node is registered as -/

/-- The handle and the kind of a node, its trigger and its dependencies. -/
def Node.enrolment (node : Node) : Int × SensorKind × Option Nat × List SensorKind :=
  (node.handle, node.kind, node.trigger, node.dependencies)

namespace Node

theorem kind_eq_of_enrolment {node other : Node} (same : node.enrolment = other.enrolment) :
    node.kind = other.kind := congrArg (·.2.1) same

theorem dependencies_eq_of_enrolment {node other : Node}
    (same : node.enrolment = other.enrolment) : node.dependencies = other.dependencies :=
  congrArg (·.2.2.2) same

theorem triggerKind_eq_of_enrolment {node other : Node} (same : node.enrolment = other.enrolment) :
    node.triggerKind = other.triggerKind := by
  have trigger : node.trigger = other.trigger := congrArg (·.2.2.1) same
  rw [triggerKind, triggerKind, trigger, dependencies_eq_of_enrolment same]

end Node

/-! ## Ascending handles -/

/-- A provider with a new handle goes between smaller and greater ones. -/
theorem Descriptor.ascending_insertByHandle {provider : Descriptor} {providers : List Descriptor}
    (ascending : providers.Pairwise (·.handle < ·.handle))
    (new : provider.handle ∉ providers.map Descriptor.handle) :
    (provider.insertByHandle providers).Pairwise (·.handle < ·.handle) := by
  induction providers with
  | nil => exact List.pairwise_singleton _ _
  | cons first rest ih =>
      obtain ⟨least, others⟩ := List.pairwise_cons.1 ascending
      rw [List.map_cons, List.mem_cons, not_or] at new
      rw [insertByHandle]
      split
      · rename_i before
        refine List.pairwise_cons.2 ⟨?_, ascending⟩
        intro later listed
        rcases List.mem_cons.1 listed with rfl | within
        · exact before
        · exact Int.lt_trans before (least later within)
      · refine List.pairwise_cons.2 ⟨?_, ih others new.2⟩
        intro later listed
        rcases List.mem_cons.1 ((provider.insertByHandle_perm rest).mem_iff.1 listed)
          with rfl | within
        · have apart := new.1
          omega
        · exact least later within

namespace Hub

/-! ## Orderly hubs -/

/-- Nothing is claimed twice, every node can be driven, and none by itself. -/
structure Orderly (hub : Hub) : Prop where
  handles : (hub.descriptors.map Descriptor.handle).Nodup
  kinds : (hub.providers.map Descriptor.kind).Nodup
  triggered : ∀ node ∈ hub.nodes, node.triggerKind ≠ none
  selfless : ∀ node ∈ hub.nodes, node.kind ∉ node.dependencies
  ascending : hub.providers.Pairwise (·.handle < ·.handle)

/-- The command of an entry, unless it is refused. -/
def granted? (entry : Int × Command) : Reply → Option (Int × Command)
  | .refused _ => none
  | _ => some entry

/-- The commands of a sequence that are not refused. -/
def granted (hub : Hub) : List (Int × Command) → List (Int × Command)
  | [] => []
  | (now, command) :: rest =>
    (granted? (now, command) (hub.perform now command).value.2).toList ++
      granted (hub.perform now command).value.1 rest

theorem nodesOf_append (first second : List (Int × Command)) :
    nodesOf (first ++ second) = nodesOf first ++ nodesOf second := List.filterMap_append

theorem providersOf_append (first second : List (Int × Command)) :
    providersOf (first ++ second) = providersOf first ++ providersOf second :=
  List.filterMap_append

namespace Effect

variable {hub after : Hub} {now : Int} {command : Command} {reply : Reply}

/-- Nodes keep what they are registered as; a node that is registered comes last. -/
theorem enrolments (effect : hub.Effect now command after reply)
    (distinct : (hub.nodes.map Node.handle).Nodup) :
    after.nodes.map Node.enrolment = hub.nodes.map Node.enrolment ++
      (nodesOf (granted? (now, command) reply).toList).map Node.enrolment := by
  by_cases controls : command.Controls
  · have none : nodesOf (granted? (now, command) reply).toList = [] := by
      cases command <;> first | exact controls.elim | cases reply <;> rfl
    have natures := congrArg (List.map Node.enrolment) (effect.bare distinct controls).1
    rw [List.map_map, List.map_map] at natures
    rw [none, List.map_nil, List.append_nil]
    exact natures
  · cases effect with
    | refused command fault => exact (List.append_nil _).symm
    | @registered node trigger unused independent triggered =>
        rw [List.map_append]
        congr 1
        cases hub.source? trigger <;> rfl
    | @provided provider first unused =>
        have none : nodesOf (granted? (now, .registerProvider provider) .done).toList = [] := rfl
        rw [none, List.map_nil, List.append_nil, List.map_map]
        apply List.map_congr_left
        intro node listed
        rw [Function.comp_apply]
        split <;> rfl
    | switched | paced | flushed | delivered | polled => exact absurd trivial controls

/-- Providers stay as they are, and one that is registered is added. -/
theorem provisions (effect : hub.Effect now command after reply) :
    after.providers.Perm
      (hub.providers ++ providersOf (granted? (now, command) reply).toList) := by
  cases effect with
  | @provided provider first unused =>
      exact (provider.insertByHandle_perm _).trans (List.perm_append_singleton _ _).symm
  | refused | registered | switched | paced | flushed | delivered | polled =>
      exact .of_eq (List.append_nil _).symm

/-- **Commands keep a hub orderly.** -/
theorem orderly (effect : hub.Effect now command after reply) (orderly : hub.Orderly) :
    after.Orderly := by
  have enrolments := effect.enrolments (nodes_distinct orderly.handles)
  -- a node of the hub afterwards is a node of it before, or it has just been accepted
  have origin : ∀ node ∈ after.nodes, ∃ old : Node, old.enrolment = node.enrolment ∧
      old.triggerKind ≠ none ∧ old.kind ∉ old.dependencies := by
    intro node listed
    have entry : node.enrolment ∈ after.nodes.map Node.enrolment := List.mem_map_of_mem listed
    rw [enrolments, List.mem_append, List.mem_map, List.mem_map] at entry
    rcases entry with ⟨old, known, same⟩ | ⟨built, new, same⟩
    · exact ⟨old, same, orderly.triggered old known, orderly.selfless old known⟩
    · cases effect with
      | registered unused independent triggered =>
          rw [show built = _ from List.mem_singleton.1 new] at same
          exact ⟨_, same, by simp [triggered], independent⟩
      | refused | provided | switched | paced | flushed | delivered | polled => cases new
  constructor
  case handles => exact effect.distinct orderly.handles
  case kinds =>
      rcases effect.providers with same | ⟨provider, -, -, first, inserted⟩
      · rw [same]
        exact orderly.kinds
      · rw [inserted, ((provider.insertByHandle_perm _).map _).nodup_iff, List.map_cons,
          List.nodup_cons]
        refine ⟨?_, orderly.kinds⟩
        intro taken
        obtain ⟨other, known, same⟩ := List.mem_map.1 taken
        exact List.find?_eq_none.1 first other known (by simpa using same)
  case triggered =>
      intro node listed
      obtain ⟨old, same, triggered, -⟩ := origin node listed
      rwa [← Node.triggerKind_eq_of_enrolment same]
  case selfless =>
      intro node listed
      obtain ⟨old, same, -, selfless⟩ := origin node listed
      rwa [← Node.kind_eq_of_enrolment same, ← Node.dependencies_eq_of_enrolment same]
  case ascending =>
      rcases effect.providers with same | ⟨provider, -, unused, -, inserted⟩
      · rw [same]
        exact orderly.ascending
      · rw [inserted]
        refine Descriptor.ascending_insertByHandle orderly.ascending ?_
        intro used
        rw [usesHandle_eq_false, handles_descriptors] at unused
        exact unused (List.mem_append_left _ used)

end Effect

theorem bare_orderly (capacity : Nat) (period : Int) : (bare capacity period).Orderly where
  handles := List.nodup_nil
  kinds := List.nodup_nil
  triggered := by simp [bare, Hub.new]
  selfless := by simp [bare, Hub.new]
  ascending := .nil

theorem Made.run_orderly {start : Hub} (made : start.Made) (commands : List (Int × Command)) :
    (start.run commands).Orderly :=
  made.run_induct (fun capacity period _ => bare_orderly capacity period)
    (fun hub now command orderly => (hub.perform_effect now command).orderly orderly) commands

/-! ## What a run registers -/

/-- The nodes of a hub after some commands are its own and those that were
accepted, in the order in which they came. -/
theorem run_enrolments {hub : Hub} (orderly : hub.Orderly) (commands : List (Int × Command)) :
    (hub.run commands).nodes.map Node.enrolment =
      hub.nodes.map Node.enrolment ++ (nodesOf (hub.granted commands)).map Node.enrolment := by
  induction commands generalizing hub with
  | nil => exact (List.append_nil _).symm
  | cons entry rest ih =>
      obtain ⟨now, command⟩ := entry
      have effect := hub.perform_effect now command
      have others := ih (effect.orderly orderly)
      rw [effect.enrolments (nodes_distinct orderly.handles), List.append_assoc] at others
      rw [granted, nodesOf_append, List.map_append]
      exact others

/-- Its providers are its own and those that were accepted. -/
theorem run_provisions (hub : Hub) (commands : List (Int × Command)) :
    (hub.run commands).providers.Perm (hub.providers ++ providersOf (hub.granted commands)) := by
  induction commands generalizing hub with
  | nil => exact .of_eq (List.append_nil _).symm
  | cons entry rest ih =>
      obtain ⟨now, command⟩ := entry
      have first := (hub.perform_effect now command).provisions
      rw [granted, providersOf_append, ← List.append_assoc]
      exact (ih (hub.perform now command).value.1).trans (first.append_right _)

/-! ## The list of sensors -/

/-- Whether a provider may stand before another one. -/
def byHandle (d e : Descriptor) : Bool := decide (d.handle ≤ e.handle)

/-- The list made from a table of providers in any order: they are sorted by
handle, and the nodes follow. -/
def listing (table : List Descriptor) (nodes : List Node) : List Descriptor :=
  table.mergeSort byHandle ++ nodes.map Node.descriptor

/-- The order of the table makes no difference. -/
theorem listing_eq {hub : Hub} (orderly : hub.Orderly) {table : List Descriptor}
    (perm : table.Perm hub.providers) : listing table hub.nodes = hub.descriptors := by
  have transitive : ∀ c d e, byHandle c d = true → byHandle d e = true → byHandle c e = true := by
    simp only [byHandle, decide_eq_true_eq]
    omega
  have total : ∀ d e, (byHandle d e || byHandle e d) = true := by
    simp only [byHandle, Bool.or_eq_true, decide_eq_true_eq]
    omega
  have moved := (table.mergeSort_perm byHandle).trans perm
  have sorted : hub.providers.Pairwise fun d e => byHandle d e = true :=
    orderly.ascending.imp fun less => decide_eq_true (Int.le_of_lt less)
  have distinct : (hub.providers.map Descriptor.handle).Nodup :=
    (List.nodup_append.1 (hub.handles_descriptors ▸ orderly.handles)).1
  have unique : table.mergeSort byHandle = hub.providers := by
    refine moved.eq_of_pairwise ?_ (List.pairwise_mergeSort transitive total table) sorted
    intro d e first second least most
    have same : d.handle = e.handle :=
      Int.le_antisymm (of_decide_eq_true least) (of_decide_eq_true most)
    exact List.inj_on_of_nodup_map distinct (moved.mem_iff.1 first) second same
  rw [listing, unique, descriptors]

/-- What a hub lists after some more commands: what it had before and what was
accepted since, each sensor once, whatever table the providers come from. -/
structure Listed (before : Hub) (commands : List (Int × Command)) (after : Hub) : Prop where
  orderly : after.Orderly
  nodes : after.nodes.map Node.enrolment = before.nodes.map Node.enrolment ++
    (nodesOf (before.granted commands)).map Node.enrolment
  providers : after.providers.Perm (before.providers ++ providersOf (before.granted commands))
  once : ∀ handle, after.usesHandle handle = true →
    (after.descriptors.map Descriptor.handle).count handle = 1
  table : ∀ table, table.Perm after.providers → listing table after.nodes = after.descriptors

/-- **The list of sensors holds each registered sensor once**, providers by
handle and then nodes in the order of their registration. -/
theorem run_listed {start : Hub} (made : start.Made) (earlier later : List (Int × Command)) :
    Listed (start.run earlier) later (start.run (earlier ++ later)) := by
  have orderly := made.run_orderly (earlier ++ later)
  constructor
  case orderly => exact orderly
  case nodes =>
      rw [run_append]
      exact run_enrolments (made.run_orderly earlier) later
  case providers =>
      rw [run_append]
      exact run_provisions (start.run earlier) later
  case once =>
      intro handle used
      refine List.count_eq_one_of_mem orderly.handles ?_
      by_contra absent
      rw [usesHandle_eq_false.2 absent] at used
      cases used
  case table => exact fun table perm => listing_eq orderly perm

/-- A node and a provider that comes after it. -/
def firstSensors : List (Int × Command) :=
  [ (0, .register (.follower 5 .gameRotationVector .rotationVector)),
    (0, .registerProvider (FusionEntry.descriptor { handle := 9 } "vendor")) ]

/-- A node that wants the handle of that provider and one that would drive itself
are refused; a second provider and a second node are not. -/
def laterSensors : List (Int × Command) :=
  [ (0, .register (Leaf.gravity.node "gravity" 9)),
    (0, .register (.follower 6 .rotationVector .rotationVector)),
    (0, .switch 5 true),
    (0, .registerProvider (.ofKind "compass" 3 .accelMagnFusion)),
    (0, .register (Leaf.gameRotationVector.node "orientation" 1)) ]

/-- The table yields the providers in the order in which they came. -/
theorem laterSensors_listed : (Hub.new 4).Made ∧
    [FusionEntry.descriptor { handle := 9 } "vendor", .ofKind "compass" 3 .accelMagnFusion].Perm
      ((Hub.new 4).run (firstSensors ++ laterSensors)).providers ∧
    listing [FusionEntry.descriptor { handle := 9 } "vendor", .ofKind "compass" 3 .accelMagnFusion]
        ((Hub.new 4).run (firstSensors ++ laterSensors)).nodes =
      ((Hub.new 4).run (firstSensors ++ laterSensors)).descriptors ∧
    ((Hub.new 4).run (firstSensors ++ laterSensors)).descriptors.map Descriptor.handle =
      [3, 9, 5, 1] := by
  have perm : [FusionEntry.descriptor { handle := 9 } "vendor",
      .ofKind "compass" 3 .accelMagnFusion].Perm
        ((Hub.new 4).run (firstSensors ++ laterSensors)).providers := by decide
  exact ⟨.empty 4, perm, (run_listed (.empty 4) firstSensors laterSensors).table _ perm, by decide⟩

end Hub

end FusionSensors
