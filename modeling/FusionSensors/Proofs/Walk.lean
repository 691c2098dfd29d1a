/-
# FusionSensors.Proofs.Walk -- walks through the graph of nodes

A walk of a source is a sequence of participating nodes, named by their places
in the roster: the source triggers the first, and the kind of each triggers
the next. Nodes may come again, so a graph with a cycle has walks of every
length, and several nodes of one kind give several walks.

`routes` lists the walks up to a length in the order in which a cascade takes
them: all walks of one node, then, the latest first, each of those with
everything that follows from it. It lists each walk once (`mem_routes`,
`nodup_routes`), and the order of two walks does not depend on who else takes
part (`routes_filter`).
-/
import FusionSensors.Hub.Demand
import FusionSensors.Proofs.Cycle
import Mathlib.Data.List.Nodup

namespace FusionSensors.Hub

set_option autoImplicit false

/-! ## Participants that a source triggers -/

/-- The places of the participants that a source triggers, in order. -/
def hits (source : SensorKind) : Roster → List Nat
  | [] => []
  | (node, active) :: rest =>
    if active && node.triggerKind == some source then 0 :: (hits source rest).map (· + 1)
    else (hits source rest).map (· + 1)

theorem mem_hits {source : SensorKind} {roster : Roster} {place : Nat} :
    place ∈ hits source roster ↔
      ∃ node, roster[place]? = some (node, true) ∧ node.triggerKind = some source := by
  induction roster generalizing place with
  | nil => simp [hits]
  | cons first rest ih =>
      obtain ⟨node, active⟩ := first
      by_cases hit : active = true ∧ node.triggerKind = some source
      · cases place <;> simp [hits, hit, ih]
      · cases place with
        | zero =>
            simp only [hits, Bool.and_eq_true, beq_iff_eq, if_neg hit]
            constructor
            · simp
            · rintro ⟨other, same, triggered⟩
              cases same
              exact absurd ⟨rfl, triggered⟩ hit
        | succ place => simp [hits, if_neg hit, ih]

theorem hits_ascend (source : SensorKind) (roster : Roster) :
    (hits source roster).Pairwise (· < ·) := by
  induction roster with
  | nil => exact .nil
  | cons first rest ih =>
      have shifted : ((hits source rest).map (· + 1)).Pairwise (· < ·) :=
        List.pairwise_map.2 (ih.imp (by omega))
      simp only [hits]
      split
      · exact List.pairwise_cons.2 ⟨by simp, shifted⟩
      · exact shifted

theorem nodup_hits (source : SensorKind) (roster : Roster) : (hits source roster).Nodup :=
  (hits_ascend source roster).imp (by omega)

/-! ## Walks -/

/-- A walk of a source. -/
inductive Walk (roster : Roster) : SensorKind → List Nat → Prop
  | here {source : SensorKind} {place : Nat} {node : Node}
      (active : roster[place]? = some (node, true))
      (triggered : node.triggerKind = some source) :
      Walk roster source [place]
  | onward {source : SensorKind} {place : Nat} {node : Node} {rest : List Nat}
      (active : roster[place]? = some (node, true))
      (triggered : node.triggerKind = some source)
      (next : Walk roster node.kind rest) :
      Walk roster source (place :: rest)

theorem Walk.ne_nil {roster : Roster} {source : SensorKind} {walk : List Nat}
    (walks : Walk roster source walk) : walk ≠ [] := by
  cases walks <;> simp

/-- A walk ends at a participant. -/
theorem Walk.last {roster : Roster} {source : SensorKind} {walk : List Nat}
    (walks : Walk roster source walk) :
    ∃ place node, walk.getLast? = some place ∧ roster[place]? = some (node, true) := by
  induction walks with
  | here active _ => exact ⟨_, _, rfl, active⟩
  | onward _ _ next ih =>
      obtain ⟨place, node, last, active⟩ := ih
      refine ⟨place, node, ?_, active⟩
      rw [List.getLast?_cons, last, Option.getD_some]

/-- The walks that begin at a place, given those that each kind goes on with. -/
def via (roster : Roster) (next : SensorKind → List (List Nat)) (place : Nat) : List (List Nat) :=
  match roster[place]? with
  | some (node, _) => (next node.kind).map (place :: ·)
  | none => []

theorem mem_via {roster : Roster} {next : SensorKind → List (List Nat)} {place : Nat}
    {walk : List Nat} :
    walk ∈ via roster next place ↔
      ∃ entry rest, roster[place]? = some entry ∧ rest ∈ next entry.1.kind ∧ place :: rest = walk := by
  unfold via
  cases roster[place]? <;> simp

/-- The walks of a source over at most `levels` nodes, in the order of a cascade. -/
def routes (roster : Roster) : Nat → SensorKind → List (List Nat)
  | 0, _ => []
  | levels + 1, source =>
    (hits source roster).map ([·]) ++
      (hits source roster).reverse.flatMap (via roster (routes roster levels))

theorem mem_routes {roster : Roster} {levels : Nat} {source : SensorKind} {walk : List Nat} :
    walk ∈ routes roster levels source ↔ Walk roster source walk ∧ walk.length ≤ levels := by
  induction levels generalizing source walk with
  | zero =>
      constructor
      · intro listed; simp [routes] at listed
      · rintro ⟨walks, short⟩
        exact absurd (List.length_eq_zero_iff.1 (by omega)) walks.ne_nil
  | succ levels ih =>
      simp only [routes, List.mem_append, List.mem_map, List.mem_flatMap, List.mem_reverse, mem_hits,
        mem_via]
      constructor
      · rintro (⟨place, ⟨node, active, triggered⟩, rfl⟩ |
          ⟨place, ⟨node, active, triggered⟩, entry, rest, found, listed, rfl⟩)
        · exact ⟨.here active triggered, by simp⟩
        · obtain rfl : (node, true) = entry := Option.some.inj (active.symm.trans found)
          obtain ⟨next, short⟩ := ih.1 listed
          exact ⟨.onward active triggered next, by simpa using short⟩
      · rintro ⟨walks, short⟩
        cases walks with
        | @here _ place node active triggered => exact .inl ⟨place, ⟨node, active, triggered⟩, rfl⟩
        | @onward _ place node rest active triggered next =>
            refine .inr ⟨place, ⟨node, active, triggered⟩, _, rest, active, ?_, rfl⟩
            exact ih.2 ⟨next, by simpa using short⟩

/-- Each walk is listed once: walks of one node differ from longer ones, and
longer ones differ in their first node or in what follows it. -/
theorem nodup_routes (roster : Roster) (levels : Nat) (source : SensorKind) :
    (routes roster levels source).Nodup := by
  induction levels generalizing source with
  | zero => exact List.nodup_nil
  | succ levels ih =>
      have single : ((hits source roster).map ([·])).Nodup :=
        List.pairwise_map.2 ((nodup_hits source roster).imp (by simp))
      have onward : ∀ place, (via roster (routes roster levels) place).Nodup := by
        intro place
        unfold via
        cases roster[place]? with
        | none => exact List.nodup_nil
        | some entry => exact List.pairwise_map.2 ((ih entry.1.kind).imp (by simp))
      refine List.nodup_append.2 ⟨single, List.nodup_flatMap.2 ⟨fun place _ => onward place, ?_⟩, ?_⟩
      · refine (List.nodup_reverse.2 (nodup_hits source roster)).imp ?_
        intro first second different walk listed again
        obtain ⟨_, _, _, _, rfl⟩ := mem_via.1 listed
        obtain ⟨_, _, _, _, same⟩ := mem_via.1 again
        exact different (List.cons.inj same).1.symm
      · rintro walk listed _ again rfl
        obtain ⟨place, -, rfl⟩ := List.mem_map.1 listed
        obtain ⟨first, -, again⟩ := List.mem_flatMap.1 again
        obtain ⟨_, rest, _, listed, same⟩ := mem_via.1 again
        exact (mem_routes.1 listed).1.ne_nil (List.cons.inj same).2

/-! ## Who else takes part -/

/-- The roster if all nodes took part. -/
def everyone (roster : Roster) : Roster := roster.map fun (node, _) => (node, true)

/-- Whether the node at a place takes part. -/
def joined (roster : Roster) (place : Nat) : Bool := roster[place]?.any Prod.snd

theorem hits_filter (source : SensorKind) (roster : Roster) :
    hits source roster = (hits source (everyone roster)).filter (joined roster) := by
  induction roster with
  | nil => rfl
  | cons first rest ih =>
      obtain ⟨node, active⟩ := first
      have shifted : (hits source rest).map (· + 1) =
          ((hits source (everyone rest)).map (· + 1)).filter (joined ((node, active) :: rest)) := by
        rw [ih, List.filter_map]
        rfl
      simp only [everyone, List.map_cons, hits, Bool.true_and] at shifted ⊢
      by_cases triggered : node.triggerKind == some source
      · cases active with
        | true => simp [triggered, joined, shifted]
        | false => simp [triggered, joined, shifted]
      · simp [triggered, shifted]

theorem via_everyone (roster : Roster) (next : SensorKind → List (List Nat)) (place : Nat) :
    via (everyone roster) next place = via roster next place := by
  unfold via
  rw [everyone, List.getElem?_map]
  cases roster[place]? <;> rfl

theorem via_filter (roster : Roster) (next : SensorKind → List (List Nat)) (place : Nat) :
    (via roster next place).filter (·.all (joined roster)) =
      if joined roster place then
        via roster (fun kind => (next kind).filter (·.all (joined roster))) place
      else [] := by
  unfold via
  cases roster[place]? with
  | none => simp
  | some entry => cases here : joined roster place <;> simp [List.filter_map, Function.comp_def, here]

theorem flatMap_filter {α β : Type} (keep : α → Bool) (list : List α) (f : α → List β) :
    (list.filter keep).flatMap f = list.flatMap fun a => if keep a then f a else [] := by
  induction list with
  | nil => rfl
  | cons a rest ih => cases kept : keep a <;> simp [kept, ih]

/-- The walks of a roster are those of everyone that only pass participants, in
the same order. -/
theorem routes_filter (roster : Roster) (levels : Nat) (source : SensorKind) :
    routes roster levels source =
      (routes (everyone roster) levels source).filter (·.all (joined roster)) := by
  induction levels generalizing source with
  | zero => rfl
  | succ levels ih =>
      have single : (hits source roster).map ([·]) =
          ((hits source (everyone roster)).map ([·])).filter (·.all (joined roster)) := by
        rw [hits_filter, List.filter_map]
        congr 2
        funext place
        simp
      have onward : (hits source roster).reverse.flatMap (via roster (routes roster levels)) =
          ((hits source (everyone roster)).reverse.flatMap
            (via (everyone roster) (routes (everyone roster) levels))).filter
              (·.all (joined roster)) := by
        have next : routes roster levels = fun kind =>
            (routes (everyone roster) levels kind).filter (·.all (joined roster)) := funext ih
        rw [hits_filter, ← List.filter_reverse, flatMap_filter, List.filter_flatMap, next]
        congr 1
        funext place
        rw [via_everyone, via_filter]
      rw [routes, routes, List.filter_append, single, onward]

end FusionSensors.Hub
