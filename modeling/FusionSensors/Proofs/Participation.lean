/-
# FusionSensors.Proofs.Participation -- who takes part in a delivery

An enabled node takes part, and so does each node whose output a participant
needs. A hub finds them by passes over its nodes: in one pass a node may be
joined by a node behind it, by the one behind that, and so on, as long as each
stands further behind. So the number of passes that it takes to get from an
enabled node to one that it needs depends on the order of registration
(`Joins`), and a hub makes `maxCascadeDepth + 1` of them (`roster_active`).

`Chain` is the need itself: nodes that drive one another, up to an enabled one.
How many passes a chain takes can be read off it (`passes`): less than it has
nodes (`passes_lt`), and one where nodes stand further and further behind
(`passes_descending`). A source triggers a participant if some chain takes few
enough (`hits_iff_chain`).
-/
import FusionSensors.Hub.Demand

namespace FusionSensors.Hub

set_option autoImplicit false

/-! ## One pass -/

theorem recruit_nodes (kinds : List SensorKind) (roster : Roster) :
    (recruit kinds roster).map Prod.fst = roster.map Prod.fst := by
  induction roster generalizing kinds with
  | nil => rfl
  | cons first rest ih =>
      obtain ⟨node, active⟩ := first
      rw [recruit]
      split <;> simp [ih]

theorem mem_wanted {roster : Roster} {kind : SensorKind} :
    kind ∈ wanted roster ↔
      ∃ (place : Nat) (node : Node), roster[place]? = some (node, true) ∧
        node.triggerKind = some kind := by
  rw [wanted, List.mem_filterMap]
  constructor
  · rintro ⟨⟨node, active⟩, listed, triggered⟩
    obtain ⟨place, found⟩ := List.mem_iff_getElem?.1 listed
    cases active with
    | false => cases triggered
    | true => exact ⟨place, node, found, triggered⟩
  · rintro ⟨place, node, found, triggered⟩
    exact ⟨(node, true), List.mem_of_getElem? found, triggered⟩

/-- A node behind a place that joins in this very pass is triggered by a kind. -/
def JoinsBehind (kinds : List SensorKind) (roster : Roster) (place : Nat) (kind : SensorKind) : Prop :=
  ∃ next other, next < place ∧ roster[next]? = some (other, false) ∧
    (recruit kinds roster)[next]? = some (other, true) ∧ other.triggerKind = some kind

section Pass

variable {kinds : List SensorKind} {rest : Roster} {ahead : Node} {place : Nat} {kind : SensorKind}

theorem recruit_joins (wanted : ahead.kind ∈ kinds) :
    recruit kinds ((ahead, false) :: rest) =
      (ahead, true) :: recruit (ahead.triggerKind.toList ++ kinds) rest := by
  simp [recruit, wanted]

theorem recruit_stays {flag : Bool} (stays : ¬ (flag = false ∧ ahead.kind ∈ kinds)) :
    recruit kinds ((ahead, flag) :: rest) = (ahead, flag) :: recruit kinds rest := by
  rw [recruit, if_neg (by simpa using stays)]

theorem joinsBehind_joins (wanted : ahead.kind ∈ kinds) :
    JoinsBehind kinds ((ahead, false) :: rest) (place + 1) kind ↔
      ahead.triggerKind = some kind ∨
        JoinsBehind (ahead.triggerKind.toList ++ kinds) rest place kind := by
  unfold JoinsBehind
  rw [recruit_joins wanted]
  constructor
  · rintro ⟨next, other, before, found, joined, triggered⟩
    cases next with
    | zero =>
        cases found
        exact .inl triggered
    | succ next => exact .inr ⟨next, other, by omega, found, joined, triggered⟩
  · rintro (triggered | ⟨next, other, before, found, joined, triggered⟩)
    · exact ⟨0, ahead, by omega, rfl, rfl, triggered⟩
    · exact ⟨next + 1, other, by omega, found, joined, triggered⟩

theorem joinsBehind_stays {flag : Bool} (stays : ¬ (flag = false ∧ ahead.kind ∈ kinds)) :
    JoinsBehind kinds ((ahead, flag) :: rest) (place + 1) kind ↔ JoinsBehind kinds rest place kind := by
  unfold JoinsBehind
  rw [recruit_stays stays]
  constructor
  · rintro ⟨next, other, before, found, joined, triggered⟩
    cases next with
    | zero =>
        cases found
        cases joined
    | succ next => exact ⟨next, other, by omega, found, joined, triggered⟩
  · rintro ⟨next, other, before, found, joined, triggered⟩
    exact ⟨next + 1, other, by omega, found, joined, triggered⟩

end Pass

/-- In one pass a node joins if its kind is wanted, or if a node behind it that
has just joined is triggered by it. -/
theorem recruit_active {kinds : List SensorKind} {roster : Roster} {place : Nat} {node : Node} :
    (recruit kinds roster)[place]? = some (node, true) ↔
      ∃ active, roster[place]? = some (node, active) ∧
        (active = true ∨ node.kind ∈ kinds ∨ JoinsBehind kinds roster place node.kind) := by
  induction roster generalizing kinds place with
  | nil => simp [recruit]
  | cons first rest ih =>
      obtain ⟨ahead, flag⟩ := first
      by_cases joins : flag = false ∧ ahead.kind ∈ kinds
      · obtain ⟨rfl, wanted⟩ := joins
        rw [recruit_joins wanted]
        cases place with
        | zero =>
            constructor
            · rintro ⟨⟩
              exact ⟨false, rfl, .inr (.inl wanted)⟩
            · rintro ⟨active, ⟨⟩, -⟩
              rfl
        | succ place =>
            rw [List.getElem?_cons_succ, ih, List.getElem?_cons_succ]
            refine exists_congr fun active => and_congr_right fun _ => or_congr_right ?_
            rw [joinsBehind_joins wanted, List.mem_append, Option.mem_toList,
              or_comm (b := node.kind ∈ kinds), or_assoc]
      · rw [recruit_stays joins]
        cases place with
        | zero =>
            constructor
            · rintro ⟨⟩
              exact ⟨true, rfl, .inl rfl⟩
            · rintro ⟨active, ⟨⟩, on | wanted | ⟨next, _, before, _⟩⟩
              · rw [on]
                rfl
              · cases flag with
                | false => exact absurd ⟨rfl, wanted⟩ joins
                | true => rfl
              · exact absurd before (Nat.not_lt_zero next)
        | succ place =>
            rw [List.getElem?_cons_succ, ih, List.getElem?_cons_succ]
            refine exists_congr fun active => and_congr_right fun _ => or_congr_right ?_
            rw [joinsBehind_stays joins]

/-! ## All passes -/

/-- A node at one place needs what the node at another one hands on. -/
def Drives (nodes : List Node) (place next : Nat) : Prop :=
  ∃ node other, nodes[place]? = some node ∧ nodes[next]? = some other ∧
    other.triggerKind = some node.kind

/-- A node takes part after a number of passes. -/
inductive Joins (nodes : List Node) : Nat → Nat → Prop
  | enabled {passes place : Nat} {node : Node} (known : nodes[place]? = some node)
      (on : node.isEnabled = true) : Joins nodes passes place
  | later {passes place next : Nat} (drives : Drives nodes place next)
      (joined : Joins nodes passes next) : Joins nodes (passes + 1) place
  /-- A node behind it joined in the same pass. -/
  | behind {passes place next : Nat} (drives : Drives nodes place next) (before : next < place)
      (joined : Joins nodes (passes + 1) next) : Joins nodes (passes + 1) place

theorem recruitTimes_succ (passes : Nat) (roster : Roster) :
    recruitTimes (passes + 1) roster =
      recruit (wanted (recruitTimes passes roster)) (recruitTimes passes roster) := by
  induction passes generalizing roster with
  | zero => rfl
  | succ passes ih => rw [recruitTimes, ih, recruitTimes]

/-- Who takes part at first. -/
def enlisted (nodes : List Node) : Roster := nodes.map fun node => (node, node.isEnabled)

theorem recruitTimes_nodes (passes : Nat) (nodes : List Node) :
    (recruitTimes passes (enlisted nodes)).map Prod.fst = nodes := by
  induction passes with
  | zero =>
      rw [recruitTimes, enlisted, List.map_map]
      exact List.map_id' nodes
  | succ passes ih => rw [recruitTimes_succ, recruit_nodes, ih]

theorem roster_nodes (hub : Hub) : hub.roster.map Prod.fst = hub.nodes :=
  recruitTimes_nodes (maxCascadeDepth + 1) hub.nodes

section Passes

variable {nodes : List Node} {passes place : Nat} {node : Node}

theorem recruitTimes_some {active : Bool}
    (found : (recruitTimes passes (enlisted nodes))[place]? = some (node, active)) :
    nodes[place]? = some node := by
  rw [← recruitTimes_nodes passes nodes, List.getElem?_map, found, Option.map_some]

theorem some_recruitTimes (known : nodes[place]? = some node) :
    ∃ active, (recruitTimes passes (enlisted nodes))[place]? = some (node, active) := by
  rw [← recruitTimes_nodes passes nodes, List.getElem?_map, Option.map_eq_some_iff] at known
  obtain ⟨⟨_, active⟩, found, rfl⟩ := known
  exact ⟨active, found⟩

theorem enlisted_active (known : nodes[place]? = some node) :
    (enlisted nodes)[place]? = some (node, node.isEnabled) := by
  rw [enlisted, List.getElem?_map, known, Option.map_some]

theorem Joins.known (joined : Joins nodes passes place) : ∃ node, nodes[place]? = some node := by
  cases joined with
  | enabled known _ => exact ⟨_, known⟩
  | later drives _ =>
      obtain ⟨node, _, known, _⟩ := drives
      exact ⟨node, known⟩
  | behind drives _ _ =>
      obtain ⟨node, _, known, _⟩ := drives
      exact ⟨node, known⟩

theorem Joins.succ (joined : Joins nodes passes place) : Joins nodes (passes + 1) place := by
  induction joined with
  | enabled known on => exact .enabled known on
  | later drives _ ih => exact .later drives ih
  | behind drives before _ ih => exact .behind drives before ih

theorem Joins.mono {more : Nat} (enough : passes ≤ more) (joined : Joins nodes passes place) :
    Joins nodes more place := by
  induction enough with
  | refl => exact joined
  | step _ ih => exact ih.succ

/-- Who takes part after some passes has joined in one of them. -/
theorem joins_of_active
    (active : (recruitTimes passes (enlisted nodes))[place]? = some (node, true)) :
    Joins nodes passes place := by
  induction passes generalizing place node with
  | zero =>
      have known : nodes[place]? = some node := recruitTimes_some active
      have on := (enlisted_active known).symm.trans active
      exact .enabled known (by simpa using on)
  | succ passes ih =>
      rw [recruitTimes_succ] at active
      -- a node may have joined because of one behind it, so these come first
      induction place using Nat.strongRecOn generalizing node with
      | ind place earlier =>
          rcases recruit_active.1 active
            with ⟨flag, found, rfl | wanted | ⟨next, other, before, missing, joined, triggered⟩⟩
          · exact (ih found).succ
          · obtain ⟨next, other, joined, triggered⟩ := mem_wanted.1 wanted
            refine .later ⟨node, other, ?_, ?_, triggered⟩ (ih joined)
            · exact recruitTimes_some found
            · exact recruitTimes_some joined
          · refine .behind ⟨node, other, ?_, ?_, triggered⟩ before (earlier next before joined)
            · exact recruitTimes_some found
            · exact recruitTimes_some missing

/-- Who has joined takes part. -/
theorem Joins.active (joined : Joins nodes passes place) (known : nodes[place]? = some node) :
    (recruitTimes passes (enlisted nodes))[place]? = some (node, true) := by
  induction joined generalizing node with
  | @enabled passes place other found on =>
      obtain rfl := Option.some.inj (known.symm.trans found)
      induction passes with
      | zero => rw [recruitTimes, enlisted_active known, on]
      | succ passes ih =>
          rw [recruitTimes_succ]
          exact recruit_active.2 ⟨true, ih, .inl rfl⟩
  | @later passes place next drives joined ih =>
      obtain ⟨driver, driven, found, next, triggered⟩ := drives
      obtain rfl := Option.some.inj (known.symm.trans found)
      obtain ⟨flag, listed⟩ := some_recruitTimes known
      rw [recruitTimes_succ]
      refine recruit_active.2 ⟨flag, listed, .inr (.inl ?_)⟩
      exact mem_wanted.2 ⟨_, driven, ih next, triggered⟩
  | @behind passes place next drives before joined ih =>
      obtain ⟨driver, driven, found, next, triggered⟩ := drives
      obtain rfl := Option.some.inj (known.symm.trans found)
      obtain ⟨flag, listed⟩ := some_recruitTimes known
      obtain ⟨earlier, missing⟩ := some_recruitTimes next
      have joins := ih next
      rw [recruitTimes_succ] at joins ⊢
      refine recruit_active.2 ⟨flag, listed, .inr ?_⟩
      cases earlier with
      | true => exact .inl (mem_wanted.2 ⟨_, driven, missing, triggered⟩)
      | false => exact .inr ⟨_, driven, before, missing, joins, triggered⟩

end Passes

/-- **A node takes part in a delivery if it joins within the passes of a hub.** -/
theorem roster_active {hub : Hub} {place : Nat} {node : Node} :
    hub.roster[place]? = some (node, true) ↔
      hub.nodes[place]? = some node ∧ Joins hub.nodes (maxCascadeDepth + 1) place := by
  constructor
  · intro active
    exact ⟨recruitTimes_some active, joins_of_active active⟩
  · rintro ⟨known, joined⟩
    exact joined.active known

/-! ## Chains -/

/-- Nodes that drive one another, up to an enabled one; the source drives the
first. -/
inductive Chain (nodes : List Node) : SensorKind → List Nat → Prop
  | last {source : SensorKind} {place : Nat} {node : Node} (known : nodes[place]? = some node)
      (triggered : node.triggerKind = some source) (on : node.isEnabled = true) :
      Chain nodes source [place]
  | onward {source : SensorKind} {place : Nat} {node : Node} {rest : List Nat}
      (known : nodes[place]? = some node) (triggered : node.triggerKind = some source)
      (next : Chain nodes node.kind rest) : Chain nodes source (place :: rest)

/-- The passes after which the first node of a chain takes part. A pass goes on
for as long as nodes stand further and further behind; the first one is needed
even then. -/
def passes : List Nat → Nat
  | [] => 0
  | [_] => 0
  | place :: next :: rest =>
    if next < place then max 1 (passes (next :: rest)) else passes (next :: rest) + 1

/-- A chain of n nodes takes less than n passes. -/
theorem passes_lt {chain : List Nat} (long : chain ≠ []) : passes chain < chain.length := by
  induction chain with
  | nil => exact absurd rfl long
  | cons place rest ih =>
      cases rest with
      | nil => simp [passes]
      | cons next rest =>
          have shorter := ih (List.cons_ne_nil next rest)
          simp only [passes, List.length_cons] at shorter ⊢
          split <;> omega

/-- A chain whose nodes stand further and further behind takes one pass. -/
theorem passes_descending {chain : List Nat} (descending : chain.Pairwise (· > ·)) :
    passes chain ≤ 1 := by
  induction chain with
  | nil => simp [passes]
  | cons place rest ih =>
      cases rest with
      | nil => simp [passes]
      | cons next rest =>
          obtain ⟨behind, others⟩ := List.pairwise_cons.1 descending
          have few := ih others
          rw [passes, if_pos (behind next List.mem_cons_self)]
          omega

theorem Joins.chain {nodes : List Node} {within place : Nat} {node : Node} {source : SensorKind}
    (joined : Joins nodes within place) (known : nodes[place]? = some node)
    (triggered : node.triggerKind = some source) :
    ∃ rest, Chain nodes source (place :: rest) ∧ passes (place :: rest) ≤ within := by
  induction joined generalizing node source with
  | @enabled within place other found on =>
      obtain rfl := Option.some.inj (known.symm.trans found)
      exact ⟨[], .last known triggered on, Nat.zero_le within⟩
  | @later within place next drives joined ih =>
      obtain ⟨driver, driven, found, next, drives⟩ := drives
      obtain rfl := Option.some.inj (known.symm.trans found)
      obtain ⟨rest, chain, few⟩ := ih next drives
      refine ⟨_, .onward known triggered chain, ?_⟩
      rw [passes]
      split <;> omega
  | @behind within place next drives before joined ih =>
      obtain ⟨driver, driven, found, next, drives⟩ := drives
      obtain rfl := Option.some.inj (known.symm.trans found)
      obtain ⟨rest, chain, few⟩ := ih next drives
      refine ⟨_, .onward known triggered chain, ?_⟩
      rw [passes, if_pos before]
      omega

theorem Chain.joins {nodes : List Node} {source : SensorKind} {chain : List Nat}
    (chained : Chain nodes source chain) :
    ∃ place rest node, chain = place :: rest ∧ nodes[place]? = some node ∧
      node.triggerKind = some source ∧ Joins nodes (passes chain) place := by
  induction chained with
  | @last source place node known triggered on =>
      exact ⟨place, [], node, rfl, known, triggered, .enabled known on⟩
  | @onward source place node rest known triggered chained ih =>
      obtain ⟨next, rest, other, rfl, found, drives, joined⟩ := ih
      refine ⟨place, _, node, rfl, known, triggered, ?_⟩
      have link : Drives nodes place next := ⟨node, other, known, found, drives⟩
      rw [passes]
      split
      · rename_i before
        obtain ⟨more, enough⟩ : ∃ more, max 1 (passes (next :: rest)) = more + 1 :=
          ⟨max 1 (passes (next :: rest)) - 1, by omega⟩
        rw [enough]
        exact .behind link before (joined.mono (by omega))
      · exact .later link joined

/-- **A source triggers a participant if a chain begins there that takes no
more passes than a hub makes.** -/
theorem hits_iff_chain {hub : Hub} {source : SensorKind} :
    (∃ (place : Nat) (node : Node), hub.roster[place]? = some (node, true) ∧
        node.triggerKind = some source) ↔
      ∃ chain, Chain hub.nodes source chain ∧ passes chain ≤ maxCascadeDepth + 1 := by
  constructor
  · rintro ⟨place, node, active, triggered⟩
    obtain ⟨known, joined⟩ := roster_active.1 active
    obtain ⟨rest, chained, few⟩ := joined.chain known triggered
    exact ⟨_, chained, few⟩
  · rintro ⟨chain, chained, few⟩
    obtain ⟨place, rest, node, -, known, triggered, joined⟩ := chained.joins
    exact ⟨place, node, roster_active.2 ⟨known, joined.mono few⟩, triggered⟩

end FusionSensors.Hub
