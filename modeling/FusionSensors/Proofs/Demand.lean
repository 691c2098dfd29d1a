/-
# FusionSensors.Proofs.Demand -- who asks for a sample, and who uses it

A source is asked to run at the shortest period requested of the enabled nodes
that its samples reach, over any number of nodes (`dependencyPeriod_shortest`),
and so it is asked if they reach one (`dependencyPeriod_isSome`). A delivered
sample is used when a participant is triggered by it. The two agree only where
a chain to an enabled node takes no more passes than a hub makes
(`demand_served`): a chain of seven nodes that were registered from the source
on is asked for and never served (`longLine_unserved`).
-/
import FusionSensors.Proofs.Reachable
import Mathlib.Data.Finset.Card
import Mathlib.Logic.Relation
import Mathlib.Order.Bounds.Basic

namespace FusionSensors.Hub

set_option autoImplicit false

/-! ## Reach of a source -/

/-- A node turns samples of one kind into samples of another one. -/
def Leads (nodes : List Node) (source kind : SensorKind) : Prop :=
  ∃ node ∈ nodes, node.triggerKind = some source ∧ node.kind = kind

theorem mem_spread {nodes : List Node} {kinds : List SensorKind} {kind : SensorKind} :
    kind ∈ spread nodes kinds ↔ kind ∈ kinds ∨ ∃ source ∈ kinds, Leads nodes source kind := by
  have led : (nodes.any fun node => node.kind == kind && node.triggerKind.any kinds.contains) = true ↔
      ∃ source ∈ kinds, Leads nodes source kind := by
    simp only [List.any_eq_true, Bool.and_eq_true, beq_iff_eq, Option.any_eq_true,
      List.contains_iff_mem]
    constructor
    · rintro ⟨node, listed, same, source, triggered, known⟩
      exact ⟨source, known, node, listed, triggered, same⟩
    · rintro ⟨source, known, node, listed, triggered, same⟩
      exact ⟨node, listed, same, source, triggered, known⟩
  rw [spread, List.mem_filter, Bool.or_eq_true, List.contains_iff_mem, led]
  exact and_iff_right kind.mem_all

theorem spreadTimes_succ (nodes : List Node) (times : Nat) (kinds : List SensorKind) :
    spreadTimes nodes (times + 1) kinds = spread nodes (spreadTimes nodes times kinds) := by
  induction times generalizing kinds with
  | zero => rfl
  | succ times ih => rw [spreadTimes, ih, spreadTimes]

/-- Kinds of which no sample turns into one of another kind. -/
def Closed (nodes : List Node) (kinds : List SensorKind) : Prop :=
  ∀ source ∈ kinds, ∀ kind, Leads nodes source kind → kind ∈ kinds

theorem Closed.spread {nodes : List Node} {kinds : List SensorKind} (closed : Closed nodes kinds) :
    Closed nodes (spread nodes kinds) := by
  intro source known kind leads
  have before : source ∈ kinds := by
    rcases mem_spread.1 known with stayed | ⟨first, known, leads⟩
    · exact stayed
    · exact closed first known source leads
  exact mem_spread.2 (.inl (closed source before kind leads))

/-- Every further step finds another kind, until there is none to find. -/
theorem closed_or_grown (nodes : List Node) (source : SensorKind) (times : Nat) :
    Closed nodes (spreadTimes nodes times [source]) ∨
      times < (spreadTimes nodes times [source]).toFinset.card := by
  induction times with
  | zero => exact .inr (by simp [spreadTimes])
  | succ times ih =>
      rw [spreadTimes_succ]
      by_cases closed : Closed nodes (spreadTimes nodes times [source])
      · exact .inl closed.spread
      · have grown := ih.resolve_left closed
        simp only [Closed, not_forall] at closed
        obtain ⟨first, known, kind, leads, missing⟩ := closed
        have bigger : (spreadTimes nodes times [source]).toFinset ⊂
            (spread nodes (spreadTimes nodes times [source])).toFinset := by
          refine Finset.ssubset_iff_of_subset ?_ |>.2 ⟨kind, ?_, by simpa using missing⟩
          · intro kind known
            exact List.mem_toFinset.2 (mem_spread.2 (.inl (List.mem_toFinset.1 known)))
          · exact List.mem_toFinset.2 (mem_spread.2 (.inr ⟨first, known, leads⟩))
        have more := Finset.card_lt_card bigger
        exact .inr (by omega)

theorem closed_reach (nodes : List Node) (source : SensorKind) :
    Closed nodes (reach nodes source) := by
  refine (closed_or_grown nodes source SensorKind.all.length).resolve_right ?_
  have some : (spreadTimes nodes SensorKind.all.length [source]).toFinset ⊆
      SensorKind.all.toFinset := fun kind _ => List.mem_toFinset.2 kind.mem_all
  have few := Finset.card_le_card some
  have all := List.toFinset_card_le SensorKind.all
  omega

/-- The reach of a source is what its samples turn into, over any number of nodes. -/
theorem mem_reach {nodes : List Node} {source kind : SensorKind} :
    kind ∈ reach nodes source ↔ Relation.ReflTransGen (Leads nodes) source kind := by
  constructor
  · unfold reach
    generalize SensorKind.all.length = times
    induction times generalizing kind with
    | zero =>
        intro known
        rw [spreadTimes, List.mem_singleton] at known
        rw [known]
    | succ times ih =>
        intro known
        rw [spreadTimes_succ] at known
        rcases mem_spread.1 known with stayed | ⟨before, known, leads⟩
        · exact ih stayed
        · exact (ih known).tail leads
  · intro path
    induction path with
    | refl =>
        unfold reach
        generalize SensorKind.all.length = times
        induction times with
        | zero => exact List.mem_singleton_self source
        | succ times ih => rw [spreadTimes_succ]; exact mem_spread.2 (.inl ih)
    | tail _ leads ih => exact closed_reach nodes source _ ih _ leads

/-! ## Shortest periods -/

/-- The shortest of some periods, if there are any. -/
def Shortest (periods : Set Int) : Option Int → Prop
  | none => periods = ∅
  | some period => IsLeast periods period

namespace Shortest

variable {periods : Set Int} {fastest : Option Int}

theorem some_iff (shortest : Shortest periods fastest) (period : Int) :
    fastest = some period ↔ IsLeast periods period := by
  cases fastest with
  | none =>
      obtain rfl : periods = ∅ := shortest
      exact ⟨nofun, fun least => absurd least.1 (Set.notMem_empty period)⟩
  | some other =>
      rw [Option.some.injEq]
      constructor
      · rintro rfl
        exact shortest
      · exact IsLeast.unique shortest

theorem none_iff (shortest : Shortest periods fastest) : fastest = none ↔ periods = ∅ := by
  cases fastest with
  | none => exact ⟨fun _ => shortest, fun _ => rfl⟩
  | some other =>
      refine ⟨nofun, ?_⟩
      rintro rfl
      exact absurd shortest.1 (Set.notMem_empty other)

/-- Some periods have one shortest at most. -/
theorem unique {other : Option Int} (shortest : Shortest periods fastest)
    (again : Shortest periods other) : fastest = other := by
  ext period
  rw [shortest.some_iff, again.some_iff]

theorem cons (shortest : Shortest periods fastest) (period : Int) :
    Shortest (insert period periods) (faster fastest period) := by
  cases fastest with
  | none =>
      obtain rfl : periods = ∅ := shortest
      rw [insert_empty_eq]
      exact isLeast_singleton
  | some other =>
      show IsLeast _ (min other period)
      rw [min_comm]
      exact IsLeast.insert period shortest

theorem foldl (shortest : Shortest periods fastest) (more : List Int) :
    Shortest (periods ∪ {period | period ∈ more}) (more.foldl faster fastest) := by
  induction more generalizing periods fastest with
  | nil => simpa using shortest
  | cons period rest ih =>
      have next := ih (shortest.cons period)
      have same : insert period periods ∪ {period | period ∈ rest} =
          periods ∪ {other | other ∈ period :: rest} := by
        ext other
        simp only [Set.mem_union, Set.mem_insert_iff, Set.mem_ofPred_eq, List.mem_cons]
        tauto
      rwa [same] at next

end Shortest

/-! ## Being asked -/

/-- The periods requested of the enabled nodes that one of some kinds triggers. -/
def requested (nodes : List Node) (wanted : SensorKind → Prop) : Set Int :=
  {period | ∃ node ∈ nodes, (∃ kind, wanted kind ∧ node.triggerKind = some kind) ∧
    node.isEnabled = true ∧ 0 < node.period ∧ node.period = period}

theorem requested_congr {nodes : List Node} {wanted others : SensorKind → Prop}
    (same : ∀ kind, wanted kind ↔ others kind) : requested nodes wanted = requested nodes others := by
  simp only [requested, same]

/-- What is computed is the shortest period requested of a kind that the source leads to. -/
theorem dependencyPeriod_shortest (hub : Hub) (source : SensorKind) :
    Shortest (requested hub.nodes (Relation.ReflTransGen (Leads hub.nodes) source))
      (hub.dependencyPeriod source) := by
  have none : Shortest ∅ none := rfl
  have found := none.foldl ((hub.nodes.filter fun node =>
    node.triggerKind.any (reach hub.nodes source).contains && node.isEnabled && 0 < node.period).map
      Node.period)
  have same : ∅ ∪ {period | period ∈ (hub.nodes.filter fun node =>
      node.triggerKind.any (reach hub.nodes source).contains && node.isEnabled &&
        0 < node.period).map Node.period} =
      requested hub.nodes (Relation.ReflTransGen (Leads hub.nodes) source) := by
    ext period
    simp only [requested, Set.empty_union, Set.mem_ofPred_eq, List.mem_map, List.mem_filter,
      Bool.and_eq_true, Option.any_eq_true, List.contains_iff_mem, mem_reach, decide_eq_true_eq]
    constructor
    · rintro ⟨node, ⟨listed, ⟨⟨kind, triggered, path⟩, on⟩, positive⟩, same⟩
      exact ⟨node, listed, ⟨kind, path, triggered⟩, on, positive, same⟩
    · rintro ⟨node, listed, ⟨kind, path, triggered⟩, on, positive, same⟩
      exact ⟨node, ⟨listed, ⟨⟨kind, triggered, path⟩, on⟩, positive⟩, same⟩
  rwa [same] at found

/-- A source is asked to run if its samples reach an enabled node that has a period. -/
theorem dependencyPeriod_isSome {hub : Hub} {source : SensorKind} :
    (hub.dependencyPeriod source).isSome = true ↔
      ∃ node ∈ hub.nodes, ∃ kind, node.triggerKind = some kind ∧
        Relation.ReflTransGen (Leads hub.nodes) source kind ∧ node.isEnabled = true ∧
        0 < node.period := by
  have asked := (hub.dependencyPeriod_shortest source).none_iff.not
  rw [← ne_eq, ← Option.isSome_iff_ne_none, ← ne_eq, ← Set.nonempty_iff_ne_empty] at asked
  rw [asked]
  constructor
  · rintro ⟨period, node, listed, ⟨kind, path, triggered⟩, on, positive, -⟩
    exact ⟨node, listed, kind, triggered, path, on, positive⟩
  · rintro ⟨node, listed, kind, triggered, path, on, positive⟩
    exact ⟨node.period, node, listed, ⟨kind, path, triggered⟩, on, positive, rfl⟩

/-- Samples of a source reach an enabled node if a chain begins there. -/
theorem exists_chain_iff {nodes : List Node} {source : SensorKind} :
    (∃ chain, Chain nodes source chain) ↔
      ∃ node ∈ nodes, ∃ kind, node.triggerKind = some kind ∧
        Relation.ReflTransGen (Leads nodes) source kind ∧ node.isEnabled = true := by
  constructor
  · rintro ⟨chain, chained⟩
    induction chained with
    | @last source place node known triggered on =>
        exact ⟨node, List.mem_of_getElem? known, source, triggered, .refl, on⟩
    | @onward source place first rest known triggered chained ih =>
        obtain ⟨node, listed, kind, driven, path, on⟩ := ih
        have leads : Leads nodes source first.kind :=
          ⟨first, List.mem_of_getElem? known, triggered, rfl⟩
        exact ⟨node, listed, kind, driven, path.head leads, on⟩
  · rintro ⟨node, listed, kind, triggered, path, on⟩
    induction path using Relation.ReflTransGen.head_induction_on with
    | refl =>
        obtain ⟨place, known⟩ := List.mem_iff_getElem?.1 listed
        exact ⟨[place], .last known triggered on⟩
    | head leads _ ih =>
        obtain ⟨first, known, driven, rfl⟩ := leads
        obtain ⟨chain, chained⟩ := ih
        obtain ⟨place, found⟩ := List.mem_iff_getElem?.1 known
        exact ⟨place :: chain, .onward found driven chained⟩

/-! ## Being served -/

/-- A delivery runs a cycle if its source triggers a participant. -/
theorem deliver_pos {hub : Hub} {source : SensorKind} {sample : Sample} :
    0 < (hub.deliver source sample).value.2 ↔
      ∃ (place : Nat) (node : Node), hub.roster[place]? = some (node, true) ∧
        node.triggerKind = some source := by
  obtain ⟨more, delivered, none⟩ := hub.deliver_hits source sample
  rw [delivered]
  constructor
  · intro ran
    cases missed : hits source hub.roster with
    | nil =>
        rw [missed, none missed] at ran
        exact absurd ran (Nat.lt_irrefl 0)
    | cons place rest =>
        have first : place ∈ hits source hub.roster := missed ▸ List.mem_cons_self
        obtain ⟨node, active, triggered⟩ := mem_hits.1 first
        exact ⟨place, node, active, triggered⟩
  · rintro ⟨place, node, active, triggered⟩
    have hit : place ∈ hits source hub.roster := mem_hits.2 ⟨node, active, triggered⟩
    have some := List.length_pos_of_mem hit
    show 0 < (hits source hub.roster).length + more.length
    omega

/-- **A source is asked for wherever a chain begins, and served only where one
begins that takes no more passes than a hub makes.** -/
theorem demand_served {hub : Hub} (reachable : hub.Reachable) (source : SensorKind)
    (sample : Sample) :
    ((hub.dependencyPeriod source).isSome = true ↔ ∃ chain, Chain hub.nodes source chain) ∧
      (0 < (hub.deliver source sample).value.2 ↔
        ∃ chain, Chain hub.nodes source chain ∧ passes chain ≤ maxCascadeDepth + 1) ∧
      (((hub.dependencyPeriod source).isSome = true ↔ 0 < (hub.deliver source sample).value.2) ↔
        ((∃ chain, Chain hub.nodes source chain) →
          ∃ chain, Chain hub.nodes source chain ∧ passes chain ≤ maxCascadeDepth + 1)) := by
  have asked : (hub.dependencyPeriod source).isSome = true ↔
      ∃ chain, Chain hub.nodes source chain := by
    rw [dependencyPeriod_isSome, exists_chain_iff]
    constructor
    · rintro ⟨node, listed, kind, triggered, path, on, -⟩
      exact ⟨node, listed, kind, triggered, path, on⟩
    · rintro ⟨node, listed, kind, triggered, path, on⟩
      have paced := (reachable.sound.nodes node listed).paced on
      exact ⟨node, listed, kind, triggered, path, on, paced⟩
  have served : 0 < (hub.deliver source sample).value.2 ↔
      ∃ chain, Chain hub.nodes source chain ∧ passes chain ≤ maxCascadeDepth + 1 := by
    rw [deliver_pos, hits_iff_chain]
  refine ⟨asked, served, ?_⟩
  rw [asked, served]
  constructor
  · exact Iff.mp
  · intro enough
    refine ⟨enough, ?_⟩
    rintro ⟨chain, chained, -⟩
    exact ⟨chain, chained⟩

/-- A source of a chain that is no longer than a hub makes passes, by one node,
is served. -/
theorem served_of_short {hub : Hub} {source : SensorKind} {chain : List Nat}
    (chained : Chain hub.nodes source chain) (short : chain.length ≤ maxCascadeDepth + 2)
    (sample : Sample) : 0 < (hub.deliver source sample).value.2 := by
  have some : chain ≠ [] := by cases chained <;> exact List.cons_ne_nil _ _
  have few := passes_lt some
  rw [deliver_pos, hits_iff_chain]
  exact ⟨chain, chained, by omega⟩

/-- A source of a chain whose sensors were registered from the enabled one back
to the source is served, however long it is. -/
theorem served_of_descending {hub : Hub} {source : SensorKind} {chain : List Nat}
    (chained : Chain hub.nodes source chain) (descending : chain.Pairwise (· > ·))
    (sample : Sample) : 0 < (hub.deliver source sample).value.2 := by
  have one := passes_descending descending
  rw [deliver_pos, hits_iff_chain]
  exact ⟨chain, chained, Nat.le_trans one (Nat.le_add_left 1 maxCascadeDepth)⟩

/-- Seven sensors in a line, registered from the source on, of which the last
is enabled. -/
def longLine : List (Int × Command) :=
  [ (0, .register (.follower 1 .accelGyroFusion .gameRotationVector)),
    (0, .register (.follower 2 .gameRotationVector .rotationVector)),
    (0, .register (.follower 3 .rotationVector .geomagneticRotationVector)),
    (0, .register (.follower 4 .geomagneticRotationVector .gravity)),
    (0, .register (.follower 5 .gravity .linearAcceleration)),
    (0, .register (.follower 6 .linearAcceleration .accelerometer)),
    (0, .register (.follower 7 .accelerometer .gyroscope)),
    (0, .switch 7 true) ]

theorem longLine_reachable : ((Hub.new 8).run longLine).Reachable := by
  apply (Reachable.made (.empty 8)).run
  simp [longLine, Command.Fresh, follower_fresh]

/-- The first of seven would take part after six passes. -/
theorem longLine_demand_served : ((Hub.new 8).run longLine).Reachable ∧
    (∃ chain, Chain ((Hub.new 8).run longLine).nodes .accelGyroFusion chain) ∧
    ¬ ∃ chain, Chain ((Hub.new 8).run longLine).nodes .accelGyroFusion chain ∧
      passes chain ≤ maxCascadeDepth + 1 := by
  obtain ⟨asked, served, -⟩ := demand_served longLine_reachable .accelGyroFusion (.blank 10 20000000)
  refine ⟨longLine_reachable, asked.1 (by decide), ?_⟩
  rw [← served]
  decide

/-- It is not so that a source is asked for exactly when it is served. -/
theorem longLine_unserved : ¬ ∀ (hub : Hub), hub.Reachable → ∀ (source : SensorKind)
    (sample : Sample), (hub.dependencyPeriod source).isSome = true ↔
      0 < (hub.deliver source sample).value.2 := by
  intro agree
  have same := agree _ longLine_reachable .accelGyroFusion (.blank 10 20000000)
  exact absurd (same.1 (by decide)) (by decide)

end FusionSensors.Hub
