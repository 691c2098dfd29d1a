/-
# FusionSensors.Proofs.Search -- how fast a source has to run

The samples of a source get to the nodes that it triggers, to those that their
outputs trigger, and so on to any length (`Downstream`). Main statement,
`dependencyPeriod_least`: a source has to run at the shortest of the periods
that the enabled ones among these nodes request, and need not run if there are
none.

It is what a search over a work list finds that takes the latest kind first and
skips those that it has seen. Such a search ends in a graph with cycles as well,
although it lists kinds again that it has seen (`drained`): a kind is seen for
the first time only once, and lists at most one kind for each node, while every
other round shortens the list. What it has seen, what it still lists and the
shortest period so far stand in one invariant (`Explores`).
-/
import FusionSensors.Proofs.Demand
import Mathlib.Logic.Function.Iterate

namespace FusionSensors.Hub

set_option autoImplicit false

/-! ## What a source has to run for -/

/-- The nodes that samples of a source get to, over any number of nodes. -/
inductive Downstream (nodes : List Node) (source : SensorKind) : Node → Prop
  | first {node : Node} (listed : node ∈ nodes) (triggered : node.triggerKind = some source) :
      Downstream nodes source node
  | next {driver node : Node} (before : Downstream nodes source driver) (listed : node ∈ nodes)
      (triggered : node.triggerKind = some driver.kind) : Downstream nodes source node

theorem downstream_iff {nodes : List Node} {source : SensorKind} {node : Node} :
    Downstream nodes source node ↔ node ∈ nodes ∧
      ∃ kind, node.triggerKind = some kind ∧ Relation.ReflTransGen (Leads nodes) source kind := by
  constructor
  · intro downstream
    induction downstream with
    | first listed triggered => exact ⟨listed, source, triggered, .refl⟩
    | @next driver node before listed triggered ih =>
        obtain ⟨known, kind, driven, path⟩ := ih
        exact ⟨listed, driver.kind, triggered, path.tail ⟨driver, known, driven, rfl⟩⟩
  · rintro ⟨listed, kind, triggered, path⟩
    induction path generalizing node with
    | refl => exact .first listed triggered
    | tail _ leads ih =>
        obtain ⟨driver, known, driven, rfl⟩ := leads
        exact .next (ih known driven) listed triggered

/-! ## The search -/

/-- The state of a search: the kinds that it lists, the latest first, those that
it has seen, and the shortest period so far. -/
structure Search where
  pending : List SensorKind
  visited : List SensorKind
  fastest : Option Int

namespace Search

/-- One round: the latest kind gives way to those of the nodes that it triggers,
unless it was seen before. -/
def round (nodes : List Node) (search : Search) : Search :=
  match search.pending with
  | [] => search
  | kind :: rest =>
    if search.visited.contains kind then { search with pending := rest }
    else
      let driven := nodes.filter (·.triggerKind == some kind)
      let periods := (driven.filter fun node => node.isEnabled && 0 < node.period).map Node.period
      ⟨(driven.map Node.kind).reverse ++ rest, kind :: search.visited,
        periods.foldl faster search.fastest⟩

theorem round_seen {nodes : List Node} {kind : SensorKind} {rest visited : List SensorKind}
    {fastest : Option Int} (seen : kind ∈ visited) :
    round nodes ⟨kind :: rest, visited, fastest⟩ = ⟨rest, visited, fastest⟩ := by
  rw [round]
  exact if_pos (List.contains_iff_mem.2 seen)

theorem round_new {nodes : List Node} {kind : SensorKind} {rest visited : List SensorKind}
    {fastest : Option Int} (new : kind ∉ visited) :
    round nodes ⟨kind :: rest, visited, fastest⟩ =
      ⟨((nodes.filter (·.triggerKind == some kind)).map Node.kind).reverse ++ rest, kind :: visited,
        (((nodes.filter (·.triggerKind == some kind)).filter fun node =>
          node.isEnabled && 0 < node.period).map Node.period).foldl faster fastest⟩ := by
  rw [round]
  exact if_neg (by simpa using new)

/-! ## It ends -/

/-- The kinds that were not seen yet. -/
def unseen (visited : List SensorKind) : Finset SensorKind :=
  SensorKind.all.toFinset \ visited.toFinset

theorem card_unseen_cons {kind : SensorKind} {visited : List SensorKind} (new : kind ∉ visited) :
    (unseen (kind :: visited)).card + 1 = (unseen visited).card := by
  have left : kind ∈ unseen visited := by simp [unseen, new, kind.mem_all]
  have fewer : unseen (kind :: visited) = (unseen visited).erase kind := by
    rw [unseen, List.toFinset_cons, Finset.sdiff_insert]
    rfl
  rw [fewer, Finset.card_erase_add_one left]

/-- The rounds that a search may still take: each kind that was not seen yet may
list one kind for each node. -/
def work (nodes : List Node) (search : Search) : Nat :=
  (unseen search.visited).card * (nodes.length + 1) + search.pending.length

theorem work_round {nodes : List Node} {search : Search} (more : search.pending ≠ []) :
    (round nodes search).work nodes < search.work nodes := by
  obtain ⟨pending, visited, fastest⟩ := search
  cases pending with
  | nil => exact absurd rfl more
  | cons kind rest =>
      by_cases seen : kind ∈ visited
      · rw [round_seen seen]
        simp [work]
      · have fewer := card_unseen_cons seen
        have few := List.length_filter_le (·.triggerKind == some kind) nodes
        rw [round_new seen]
        simp only [work, ← fewer, List.length_append, List.length_reverse, List.length_map,
          List.length_cons, Nat.add_mul]
        omega

/-- Every search ends. -/
theorem drained (nodes : List Node) (search : Search) :
    ∃ rounds ≤ search.work nodes, ((round nodes)^[rounds] search).pending = [] := by
  induction bound : search.work nodes using Nat.strongRecOn generalizing search with
  | ind most ih =>
      by_cases done : search.pending = []
      · exact ⟨0, Nat.zero_le most, done⟩
      · have less : (round nodes search).work nodes < search.work nodes := work_round done
        obtain ⟨rounds, enough, empty⟩ := ih _ (bound ▸ less) (round nodes search) rfl
        exact ⟨rounds + 1, by omega, empty⟩

/-! ## What it finds -/

/-- Whether a search has come across a kind. -/
def Found (search : Search) (kind : SensorKind) : Prop :=
  kind ∈ search.visited ∨ kind ∈ search.pending

/-- What holds of a search from a source after every round. -/
structure Explores (nodes : List Node) (source : SensorKind) (search : Search) : Prop where
  begun : search.Found source
  within : ∀ kind, search.Found kind → Relation.ReflTransGen (Leads nodes) source kind
  onward : ∀ kind ∈ search.visited, ∀ next, Leads nodes kind next → search.Found next
  shortest : Shortest (requested nodes (· ∈ search.visited)) search.fastest

section Explore

variable {nodes : List Node} {source : SensorKind}

theorem explores_start : Explores nodes source ⟨[source], [], none⟩ where
  begun := .inr (List.mem_singleton_self source)
  within kind found := by
    have only : kind = source := by simpa [Found] using found
    rw [only]
  onward := nofun
  shortest := by simp [Shortest, requested]

theorem mem_driven {kind next : SensorKind} :
    next ∈ ((nodes.filter (·.triggerKind == some kind)).map Node.kind).reverse ↔
      Leads nodes kind next := by
  simp only [List.mem_reverse, List.mem_map, List.mem_filter, beq_iff_eq, Leads]
  constructor
  · rintro ⟨node, ⟨listed, triggered⟩, same⟩
    exact ⟨node, listed, triggered, same⟩
  · rintro ⟨node, listed, triggered, same⟩
    exact ⟨node, ⟨listed, triggered⟩, same⟩

/-- The nodes that another kind triggers add their periods. -/
theorem requested_cons (kind : SensorKind) (visited : List SensorKind) :
    requested nodes (· ∈ kind :: visited) = requested nodes (· ∈ visited) ∪
      {period | period ∈ ((nodes.filter (·.triggerKind == some kind)).filter fun node =>
        node.isEnabled && 0 < node.period).map Node.period} := by
  ext period
  simp only [requested, Set.mem_union, Set.mem_ofPred_eq, List.mem_map, List.mem_filter, beq_iff_eq,
    Bool.and_eq_true, decide_eq_true_eq, List.mem_cons]
  constructor
  · rintro ⟨node, listed, ⟨other, rfl | seen, triggered⟩, on, positive, same⟩
    · exact .inr ⟨node, ⟨⟨listed, triggered⟩, on, positive⟩, same⟩
    · exact .inl ⟨node, listed, ⟨other, seen, triggered⟩, on, positive, same⟩
  · rintro (⟨node, listed, ⟨other, seen, triggered⟩, on, positive, same⟩ |
      ⟨node, ⟨⟨listed, triggered⟩, on, positive⟩, same⟩)
    · exact ⟨node, listed, ⟨other, .inr seen, triggered⟩, on, positive, same⟩
    · exact ⟨node, listed, ⟨kind, .inl rfl, triggered⟩, on, positive, same⟩

section Round

variable {kind : SensorKind} {rest visited : List SensorKind} {fastest : Option Int}

/-- A kind that was seen before may be left out. -/
theorem Explores.skip (explores : Explores nodes source ⟨kind :: rest, visited, fastest⟩)
    (seen : kind ∈ visited) : Explores nodes source ⟨rest, visited, fastest⟩ := by
  obtain ⟨begun, within, onward, shortest⟩ := explores
  have still : ∀ other, Found ⟨kind :: rest, visited, fastest⟩ other →
      Found ⟨rest, visited, fastest⟩ other := by
    rintro other (known | listed)
    · exact .inl known
    · rcases List.mem_cons.1 listed with rfl | later
      · exact .inl seen
      · exact .inr later
  refine ⟨still source begun, ?_, ?_, shortest⟩
  · exact fun other found => within other (found.imp_right (List.mem_cons_of_mem kind))
  · exact fun other known next leads => still next (onward other known next leads)

/-- A kind that is seen for the first time lists the kinds that it leads to, and
adds the periods of the nodes that it triggers. -/
theorem Explores.see (explores : Explores nodes source ⟨kind :: rest, visited, fastest⟩) :
    Explores nodes source
      ⟨((nodes.filter (·.triggerKind == some kind)).map Node.kind).reverse ++ rest, kind :: visited,
        (((nodes.filter (·.triggerKind == some kind)).filter fun node =>
          node.isEnabled && 0 < node.period).map Node.period).foldl faster fastest⟩ := by
  obtain ⟨begun, within, onward, shortest⟩ := explores
  have path := within kind (.inr List.mem_cons_self)
  have still : ∀ other, Found ⟨kind :: rest, visited, fastest⟩ other → other ∈ kind :: visited ∨
      other ∈ ((nodes.filter (·.triggerKind == some kind)).map Node.kind).reverse ++ rest := by
    rintro other (known | listed)
    · exact .inl (List.mem_cons_of_mem kind known)
    · rcases List.mem_cons.1 listed with rfl | later
      · exact .inl List.mem_cons_self
      · exact .inr (List.mem_append_right _ later)
  refine ⟨still source begun, ?_, ?_, ?_⟩
  · rintro other (known | listed)
    · rcases List.mem_cons.1 known with rfl | known
      · exact path
      · exact within other (.inl known)
    · rcases List.mem_append.1 listed with driven | later
      · exact path.tail (mem_driven.1 driven)
      · exact within other (.inr (List.mem_cons_of_mem kind later))
  · intro other known next leads
    rcases List.mem_cons.1 known with rfl | known
    · exact .inr (List.mem_append_left _ (mem_driven.2 leads))
    · exact still next (onward other known next leads)
  · show Shortest (requested nodes (· ∈ kind :: visited)) _
    rw [requested_cons]
    exact shortest.foldl _

end Round

theorem Explores.round {search : Search} (explores : Explores nodes source search) :
    Explores nodes source (round nodes search) := by
  obtain ⟨pending, visited, fastest⟩ := search
  cases pending with
  | nil => exact explores
  | cons kind rest =>
      by_cases seen : kind ∈ visited
      · rw [round_seen seen]
        exact explores.skip seen
      · rw [round_new seen]
        exact explores.see

theorem Explores.rounds {search : Search} (explores : Explores nodes source search) (rounds : Nat) :
    Explores nodes source ((Search.round nodes)^[rounds] search) := by
  induction rounds with
  | zero => exact explores
  | succ rounds ih =>
      rw [Function.iterate_succ_apply']
      exact ih.round

/-- A search that lists nothing any more has seen all that the source leads to. -/
theorem Explores.visited {search : Search} (explores : Explores nodes source search)
    (empty : search.pending = []) (kind : SensorKind) :
    kind ∈ search.visited ↔ Relation.ReflTransGen (Leads nodes) source kind := by
  obtain ⟨start, within, onward, -⟩ := explores
  simp only [Found, empty, List.not_mem_nil, or_false] at start within onward
  constructor
  · exact within kind
  · intro path
    induction path with
    | refl => exact start
    | tail _ leads ih => exact onward _ ih _ leads

end Explore

end Search

/-- **A source has to run at the shortest period requested downstream of it**, and
need not run exactly if no enabled node there requests one. That is what the
search finds, which ends after a number of rounds that the nodes bound. -/
theorem dependencyPeriod_least (hub : Hub) (source : SensorKind) :
    (∀ period, hub.dependencyPeriod source = some period ↔
      IsLeast {period | ∃ node, Downstream hub.nodes source node ∧ node.isEnabled = true ∧
        0 < node.period ∧ node.period = period} period) ∧
      (hub.dependencyPeriod source = none ↔
        ¬ ∃ node, Downstream hub.nodes source node ∧ node.isEnabled = true ∧ 0 < node.period) ∧
      ∃ rounds ≤ SensorKind.all.length * (hub.nodes.length + 1) + 1, ∃ visited,
        (Search.round hub.nodes)^[rounds] ⟨[source], [], none⟩ =
          ⟨[], visited, hub.dependencyPeriod source⟩ := by
  have shortest := dependencyPeriod_shortest hub source
  have downstream : requested hub.nodes (Relation.ReflTransGen (Leads hub.nodes) source) =
      {period | ∃ node, Downstream hub.nodes source node ∧ node.isEnabled = true ∧
        0 < node.period ∧ node.period = period} := by
    ext period
    simp only [requested, downstream_iff, Set.mem_ofPred_eq]
    constructor
    · rintro ⟨node, listed, ⟨kind, path, triggered⟩, asks⟩
      exact ⟨node, ⟨listed, kind, triggered, path⟩, asks⟩
    · rintro ⟨node, ⟨listed, kind, triggered, path⟩, asks⟩
      exact ⟨node, listed, ⟨kind, path, triggered⟩, asks⟩
  refine ⟨?_, ?_, ?_⟩
  · rw [← downstream]
    exact shortest.some_iff
  · rw [shortest.none_iff, downstream, Set.eq_empty_iff_forall_notMem]
    constructor
    · rintro nobody ⟨node, reached, on, positive⟩
      exact nobody node.period ⟨node, reached, on, positive, rfl⟩
    · rintro nobody period ⟨node, reached, on, positive, -⟩
      exact nobody ⟨node, reached, on, positive⟩
  · obtain ⟨rounds, enough, empty⟩ := Search.drained hub.nodes ⟨[source], [], none⟩
    have explores : Search.Explores hub.nodes source
        ((Search.round hub.nodes)^[rounds] ⟨[source], [], none⟩) := Search.explores_start.rounds rounds
    generalize ended : (Search.round hub.nodes)^[rounds] ⟨[source], [], none⟩ = last at *
    have all : requested hub.nodes (· ∈ last.visited) =
        requested hub.nodes (Relation.ReflTransGen (Leads hub.nodes) source) :=
      requested_congr (explores.visited empty)
    have found := explores.shortest.unique (all ▸ shortest)
    have few : (Search.unseen []).card ≤ SensorKind.all.length :=
      (Finset.card_le_card Finset.sdiff_subset).trans (List.toFinset_card_le SensorKind.all)
    refine ⟨rounds, enough.trans ?_, last.visited, ?_⟩
    · exact Nat.add_le_add_right (Nat.mul_le_mul_right _ few) 1
    · rw [ended, ← empty, ← found]

end FusionSensors.Hub
