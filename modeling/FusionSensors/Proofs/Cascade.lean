/-
# FusionSensors.Proofs.Cascade -- a delivery runs one cycle for each walk

A delivery changes nodes and pipe by cycles only, turn by turn
(`cascade_some_turns`). Where all nodes forward, the turns are those of
`schedule`: one for each walk of the source, taken by the last node of the
walk on the sample that arrives there. The schedule is settled before the
first turn, because no turn changes what the schedule is made from, the nature
of the nodes and who takes part (`cascade_turns`).
-/
import FusionSensors.Hub.Deliver
import FusionSensors.Proofs.Walk

namespace FusionSensors

set_option autoImplicit false

/-! ## Computations that write fewer notes -/

namespace Logged

variable {α β : Type}

/-- One computation is another one that writes fewer notes. -/
def Within (first second : Logged α) : Prop :=
  first.value = second.value ∧ first.notes.Sublist second.notes

theorem Within.refl (first : Logged α) : first.Within first := ⟨rfl, .refl _⟩

theorem Within.bind {first second : Logged α} {next other : α → Logged β}
    (before : first.Within second) (rest : (next second.value).Within (other second.value)) :
    (first >>= next).Within (second >>= other) := by
  obtain ⟨value, notes⟩ := before
  refine ⟨?_, ?_⟩
  · rw [value_bind, value_bind, value, rest.1]
  · rw [notes_bind, notes_bind, value]
    exact notes.append rest.2

end Logged

namespace Hub

/-! ## Turns -/

/-- One cycle of the node at a place. -/
structure Turn where
  place : Nat
  sample : Sample
  deriving DecidableEq, Repr

section Turns

variable {σ : Type} [Outlet σ]

/-- Lets the node of a turn run its cycle. -/
def takeTurn (turn : Turn) (state : List Node × σ) : Logged (List Node × σ) :=
  match state.1[turn.place]? with
  | none => pure state
  | some node => do
    let (node, outlet) ← node.cycle state.2 turn.sample
    pure (state.1.set turn.place node, outlet)

/-- Takes turns one after the other. -/
def takeTurns : List Turn → List Node × σ → Logged (List Node × σ)
  | [], state => pure state
  | turn :: rest, state => do takeTurns rest (← takeTurn turn state)

theorem takeTurns_append (first second : List Turn) (state : List Node × σ) :
    takeTurns (first ++ second) state = takeTurns first state >>= takeTurns second := by
  induction first generalizing state with
  | nil => simp [takeTurns]
  | cons turn rest ih => simp [takeTurns, ih]

theorem takeTurn_none {turn : Turn} {state : List Node × σ}
    (absent : state.1[turn.place]? = none) : takeTurn turn state = pure state := by
  simp [takeTurn, absent]

theorem takeTurn_some {turn : Turn} {state : List Node × σ} {node : Node}
    (found : state.1[turn.place]? = some node) :
    takeTurn turn state = node.cycle state.2 turn.sample >>= fun ran =>
      pure (state.1.set turn.place ran.1, ran.2) := by
  simp [takeTurn, found]

/-- What a cycle keeps of a node, a turn keeps of all nodes. -/
theorem takeTurn_map {α : Type} (f : Node → α)
    (kept : ∀ (node : Node) (outlet : σ) sample, f (node.cycle outlet sample).value.1 = f node)
    (turn : Turn) (state : List Node × σ) :
    (takeTurn turn state).value.1.map f = state.1.map f := by
  cases found : state.1[turn.place]? with
  | none => rw [takeTurn_none found, Logged.value_pure]
  | some node =>
      obtain ⟨within, rfl⟩ := List.getElem?_eq_some_iff.1 found
      have bound : turn.place < (state.1.map f).length := by simpa using within
      have same : f state.1[turn.place] = (state.1.map f)[turn.place] := by simp
      rw [takeTurn_some found, Logged.value_bind, Logged.value_pure]
      rw [List.map_set, kept, same, List.set_getElem_self]

theorem takeTurns_map {α : Type} (f : Node → α)
    (kept : ∀ (node : Node) (outlet : σ) sample, f (node.cycle outlet sample).value.1 = f node)
    (turns : List Turn) (state : List Node × σ) :
    (takeTurns turns state).value.1.map f = state.1.map f := by
  induction turns generalizing state with
  | nil => rfl
  | cons turn rest ih => exact (ih _).trans (takeTurn_map f kept turn state)

theorem takeTurns_bare (turns : List Turn) (state : List Node × σ) :
    (takeTurns turns state).value.1.map Node.bare = state.1.map Node.bare :=
  takeTurns_map Node.bare Node.cycle_bare turns state

theorem length_takeTurns (turns : List Turn) (state : List Node × σ) :
    (takeTurns turns state).value.1.length = state.1.length := by
  have same := congrArg List.length (takeTurns_bare turns state)
  simpa using same

/-- A node in front of the others takes no part in their turns. -/
theorem takeTurns_cons (node : Node) (turns : List Turn) (nodes : List Node) (outlet : σ) :
    takeTurns (turns.map fun turn => { turn with place := turn.place + 1 }) (node :: nodes, outlet) =
      takeTurns turns (nodes, outlet) >>= fun state => pure (node :: state.1, state.2) := by
  induction turns generalizing nodes outlet with
  | nil => simp [takeTurns]
  | cons turn rest ih =>
      simp only [List.map_cons, takeTurns, takeTurn, List.getElem?_cons_succ]
      cases nodes[turn.place]? with
      | none => simp [ih]
      | some other => simp [ih]

theorem getElem?_takeTurn (turn : Turn) (state : List Node × σ) (place : Nat) :
    (takeTurn turn state).value.1[place]? =
      if turn.place = place then
        state.1[place]?.map fun node => (node.cycle state.2 turn.sample).value.1
      else state.1[place]? := by
  cases found : state.1[turn.place]? with
  | none =>
      rw [takeTurn_none found, Logged.value_pure]
      by_cases here : turn.place = place
      · rw [if_pos here, ← here, found, Option.map_none]
      · rw [if_neg here]
  | some node =>
      have within : turn.place < state.1.length := (List.getElem?_eq_some_iff.1 found).1
      rw [takeTurn_some found, Logged.value_bind, Logged.value_pure, List.getElem?_set]
      by_cases here : turn.place = place
      · rw [if_pos here, if_pos within, if_pos here, ← here, found, Option.map_some]
      · rw [if_neg here, if_neg here]

/-- A node without a turn stays as it is. -/
theorem takeTurns_untouched {turns : List Turn} {place : Nat}
    (idle : ∀ turn ∈ turns, turn.place ≠ place) (state : List Node × σ) :
    (takeTurns turns state).value.1[place]? = state.1[place]? := by
  induction turns generalizing state with
  | nil => rfl
  | cons turn rest ih =>
      have later : ∀ turn ∈ rest, turn.place ≠ place :=
        fun turn within => idle turn (List.mem_cons_of_mem _ within)
      rw [takeTurns, Logged.value_bind, ih later, getElem?_takeTurn,
        if_neg (idle turn List.mem_cons_self)]

end Turns

/-! ## What follows from a sample -/

/-- What the node at a place makes of a sample. -/
def onward (roster : Roster) (place : Nat) (sample : Sample) : Sample :=
  match roster[place]? with
  | some (node, _) => node.transform sample
  | none => sample

/-- The sample that arrives at the last node of a walk: all nodes before it
have made theirs of it, in turn. -/
def carried (roster : Roster) (walk : List Nat) (sample : Sample) : Sample :=
  walk.dropLast.foldl (fun sample place => onward roster place sample) sample

/-- The turn that a walk ends with. -/
def arrival (roster : Roster) (sample : Sample) (walk : List Nat) : Turn :=
  ⟨walk.getLastD 0, carried roster walk sample⟩

/-- The turns that follow from a sample of a source, in order. -/
def schedule (roster : Roster) (levels : Nat) (source : SensorKind) (sample : Sample) : List Turn :=
  (routes roster levels source).map (arrival roster sample)

theorem arrival_cons (roster : Roster) (sample : Sample) (place : Nat) {walk : List Nat}
    (long : walk ≠ []) :
    arrival roster sample (place :: walk) = arrival roster (onward roster place sample) walk := by
  obtain ⟨next, rest, rfl⟩ := List.exists_cons_of_ne_nil long
  simp [arrival, carried]

/-- Only participants take turns. -/
theorem turn_active {roster : Roster} {levels : Nat} {source : SensorKind} {sample : Sample}
    {turn : Turn} (scheduled : turn ∈ schedule roster levels source sample) :
    ∃ node, roster[turn.place]? = some (node, true) := by
  obtain ⟨walk, listed, rfl⟩ := List.mem_map.1 scheduled
  obtain ⟨place, node, last, active⟩ := (mem_routes.1 listed).1.last
  refine ⟨node, ?_⟩
  rw [arrival, List.getLastD_eq_getLast?, last, Option.getD_some]
  exact active

/-- What a roster is for a schedule: the natures of its nodes and who takes part. -/
def outline (roster : Roster) : Roster := roster.map fun (node, active) => (node.bare, active)

theorem outline_zip (nodes : List Node) (flags : List Bool) :
    outline (nodes.zip flags) = (nodes.map Node.bare).zip flags := by
  rw [List.zip_map_left]
  rfl

theorem outline_eq_zip (roster : Roster) :
    outline roster = ((roster.map Prod.fst).map Node.bare).zip (roster.map Prod.snd) := by
  rw [← outline_zip]
  congr 1
  exact List.zip_of_prod rfl rfl

theorem hits_outline (source : SensorKind) (roster : Roster) :
    hits source (outline roster) = hits source roster := by
  induction roster with
  | nil => rfl
  | cons first rest ih =>
      obtain ⟨node, active⟩ := first
      simp only [outline, List.map_cons, hits, Node.triggerKind_bare] at ih ⊢
      rw [ih]
      rfl

theorem getElem?_outline (roster : Roster) (place : Nat) :
    (outline roster)[place]? = roster[place]?.map fun (node, active) => (node.bare, active) := by
  simp [outline]

theorem routes_outline (roster : Roster) (levels : Nat) (source : SensorKind) :
    routes (outline roster) levels source = routes roster levels source := by
  induction levels generalizing source with
  | zero => rfl
  | succ levels ih =>
      have same : via (outline roster) (routes (outline roster) levels) =
          via roster (routes roster levels) := by
        funext place
        unfold via
        rw [getElem?_outline]
        cases roster[place]? <;> simp [ih]
      rw [routes, routes, hits_outline, same]

theorem schedule_outline (roster : Roster) (levels : Nat) (source : SensorKind) (sample : Sample) :
    schedule (outline roster) levels source sample = schedule roster levels source sample := by
  have same : onward (outline roster) = onward roster := by
    funext place sample
    unfold onward
    rw [getElem?_outline]
    cases roster[place]? <;> simp
  have arrives : arrival (outline roster) sample = arrival roster sample := by
    funext walk
    simp only [arrival, carried, same]
  rw [schedule, routes_outline, arrives, schedule]

/-! ## One level -/

/-- The outputs that nodes at some places keep, in order. -/
def outputs (nodes : List Node) (places : List Nat) : List Forward :=
  places.filterMap fun place => nodes[place]?.bind fun node => node.output.map (⟨node.kind, ·⟩)

theorem outputs_cons (node : Node) (nodes : List Node) (places : List Nat) :
    outputs (node :: nodes) (places.map (· + 1)) = outputs nodes places := by
  simp [outputs, List.filterMap_map]

/-- What the nodes at some places hand on of a sample, in order. -/
def handedOn (roster : Roster) (sample : Sample) (places : List Nat) : List Forward :=
  places.filterMap fun place =>
    roster[place]?.map fun (node, _) => ⟨node.kind, node.transform sample⟩

section Levels

variable {σ : Type} [Outlet σ]

/-- Feeding a sample to a roster is a turn for each node hit. -/
theorem feed_hits (source : SensorKind) (sample : Sample) (roster : Roster) (outlet : σ) :
    feed ⟨source, sample⟩ roster outlet =
      takeTurns ((hits source roster).map (⟨·, sample⟩)) (roster.map Prod.fst, outlet) >>= fun state =>
        pure (state.1.zip (roster.map Prod.snd), state.2, (hits source roster).length,
          outputs state.1 (hits source roster)) := by
  induction roster generalizing outlet with
  | nil => simp [feed, hits, takeTurns, outputs]
  | cons entry rest ih =>
      obtain ⟨node, active⟩ := entry
      have shift : ∀ places : List Nat, (places.map (· + 1)).map (⟨·, sample⟩ : Nat → Turn) =
          (places.map (⟨·, sample⟩)).map fun turn : Turn => { turn with place := turn.place + 1 } := by
        simp
      by_cases hit : active && node.triggerKind == some source
      · have first : ∀ (node : Node) (nodes : List Node) (places : List Nat),
            outputs (node :: nodes) (0 :: places.map (· + 1)) =
              (node.output.toList.map fun output => ⟨node.kind, output⟩) ++ outputs nodes places := by
          intro node nodes places
          rw [← outputs_cons node]
          cases kept : node.output <;> simp [outputs, kept]
        simp only [feed, hits, if_pos hit, List.map_cons, takeTurns, takeTurn,
          List.getElem?_cons_zero, List.set_cons_zero, shift, bind_assoc, pure_bind,
          takeTurns_cons, ih, first]
        simp
      · simp only [feed, hits, if_neg hit, ih, shift, List.map_cons, takeTurns_cons]
        simp [outputs_cons]

/-- After some turns on one sample, each of their nodes keeps what it makes of it. -/
theorem takeTurns_output (sample : Sample) (places : List Nat) (state : List Node × σ)
    {place : Nat} (turned : place ∈ places) {node : Node} (found : state.1[place]? = some node)
    (forwards : node.forwards = true) :
    ∃ after, (takeTurns (places.map (⟨·, sample⟩)) state).value.1[place]? = some after ∧
      after.kind = node.kind ∧ after.output = some (node.transform sample) := by
  induction places generalizing state node with
  | nil => cases turned
  | cons next rest ih =>
      have step := getElem?_takeTurn ⟨next, sample⟩ state place
      rw [found, Option.map_some] at step
      rw [List.map_cons, takeTurns, Logged.value_bind]
      by_cases again : place ∈ rest
      · have same : ∃ now, (takeTurn ⟨next, sample⟩ state).value.1[place]? = some now ∧
            now.bare = node.bare := by
          rw [step]
          split
          · exact ⟨_, rfl, Node.cycle_bare _ _ _⟩
          · exact ⟨_, rfl, rfl⟩
        obtain ⟨now, reached, bare⟩ := same
        have forwarding : now.forwards = true := by
          rw [← Node.forwards_bare, bare, Node.forwards_bare, forwards]
        obtain ⟨after, last, kind, output⟩ := ih _ again reached forwarding
        refine ⟨after, last, ?_, ?_⟩
        · rw [kind, ← Node.kind_bare, bare, Node.kind_bare]
        · rw [output, ← Node.transform_bare, bare, Node.transform_bare]
      · obtain rfl : place = next := (List.mem_cons.1 turned).resolve_right again
        have idle : ∀ turn ∈ rest.map (⟨·, sample⟩ : Nat → Turn), turn.place ≠ place := by
          intro turn within here
          obtain ⟨other, listed, rfl⟩ := List.mem_map.1 within
          exact again (here ▸ listed)
        rw [if_pos rfl] at step
        refine ⟨_, (takeTurns_untouched idle _).trans step, ?_, Node.cycle_output forwards _ _⟩
        rw [← Node.kind_bare, Node.cycle_bare, Node.kind_bare]

/-- Nodes that forward hand on what they make of the sample. -/
theorem feed_turns (source : SensorKind) (sample : Sample) (roster : Roster) (outlet : σ)
    (forwards : ∀ entry ∈ roster, entry.1.forwards = true) :
    feed ⟨source, sample⟩ roster outlet =
      takeTurns ((hits source roster).map (⟨·, sample⟩)) (roster.map Prod.fst, outlet) >>= fun state =>
        pure (state.1.zip (roster.map Prod.snd), state.2, (hits source roster).length,
          handedOn roster sample (hits source roster)) := by
  rw [feed_hits]
  apply Logged.bind_congr_value
  congr 4
  apply List.filterMap_congr
  intro place hit
  obtain ⟨node, found, -⟩ := mem_hits.1 hit
  have first : (roster.map Prod.fst)[place]? = some node := by simp [found]
  obtain ⟨after, last, kind, output⟩ := takeTurns_output sample (hits source roster)
    (roster.map Prod.fst, outlet) hit first (forwards _ (List.mem_of_getElem? found))
  rw [last, found]
  simp [kind, output]

/-! ## All levels -/

/-- The delivery after some turns. -/
def Delivery.after (delivery : Delivery σ) (turns : List Turn) : Logged (Delivery σ) := do
  let state ← takeTurns turns (delivery.roster.map Prod.fst, delivery.outlet)
  pure ⟨state.1.zip (delivery.roster.map Prod.snd), state.2, delivery.cycles + turns.length⟩

namespace Delivery

theorem after_nil (delivery : Delivery σ) : delivery.after [] = pure delivery := by
  simp only [after, takeTurns, pure_bind, List.length_nil, Nat.add_zero]
  rw [← List.zip_of_prod rfl rfl]

theorem after_append (delivery : Delivery σ) (first second : List Turn) :
    delivery.after (first ++ second) = delivery.after first >>= (·.after second) := by
  simp only [after, takeTurns_append, bind_assoc, pure_bind]
  apply Logged.bind_congr_value
  have long : (takeTurns first (delivery.roster.map Prod.fst, delivery.outlet)).value.1.length =
      (delivery.roster.map Prod.snd).length := by
    rw [length_takeTurns, List.length_map, List.length_map]
  rw [List.map_fst_zip (Nat.le_of_eq long), List.map_snd_zip (Nat.le_of_eq long.symm),
    List.length_append, Nat.add_assoc]

theorem outline_after (delivery : Delivery σ) (turns : List Turn) :
    outline (delivery.after turns).value.roster = outline delivery.roster := by
  show outline ((takeTurns turns _).value.1.zip (delivery.roster.map Prod.snd)) = _
  rw [outline_zip, takeTurns_bare, outline_eq_zip]

end Delivery

/-- Outputs that are each delivered by some turns are delivered by some turns. -/
theorem outputs_some_turns {levels : Nat}
    (each : ∀ (now : Delivery σ) (forward : Forward), ∃ turns,
      (cascade levels now forward).value = (now.after turns).value)
    (list : List Forward) (now : Delivery σ) :
    ∃ turns, (list.foldlM (fun now output => cascade levels now output) now).value =
      (now.after turns).value ∧ (list = [] → turns = []) := by
  induction list generalizing now with
  | nil => exact ⟨[], by rw [Delivery.after_nil]; rfl, fun _ => rfl⟩
  | cons output rest more =>
      obtain ⟨first, cascaded⟩ := each now output
      obtain ⟨others, continued, -⟩ := more (now.after first).value
      refine ⟨first ++ others, ?_, by simp⟩
      rw [List.foldlM_cons, Logged.value_bind, cascaded, continued, Delivery.after_append,
        Logged.value_bind]

/-- A cascade begins with the nodes that its sample hits, and if there are none
it ends there. -/
theorem cascade_hits {levels : Nat}
    (each : ∀ (now : Delivery σ) (forward : Forward), ∃ turns,
      (cascade levels now forward).value = (now.after turns).value)
    (delivery : Delivery σ) (forward : Forward) :
    ∃ more, (cascade (levels + 1) delivery forward).value =
        (delivery.after ((hits forward.source delivery.roster).map (⟨·, forward.sample⟩) ++ more)).value ∧
      (hits forward.source delivery.roster = [] → more = []) := by
  obtain ⟨source, sample⟩ := forward
  have level := feed_hits source sample delivery.roster delivery.outlet
  obtain ⟨more, delivered, none⟩ := outputs_some_turns each
    (outputs (takeTurns ((hits source delivery.roster).map (⟨·, sample⟩))
      (delivery.roster.map Prod.fst, delivery.outlet)).value.1 (hits source delivery.roster)).reverse
    (delivery.after ((hits source delivery.roster).map (⟨·, sample⟩))).value
  refine ⟨more, ?_, fun missed => none (by rw [missed]; rfl)⟩
  rw [Delivery.after_append, Logged.value_bind, ← delivered, cascade, Logged.value_bind, level]
  simp [Delivery.after]

/-- **A cascade is a sequence of turns**, whatever its nodes hand on. -/
theorem cascade_some_turns (levels : Nat) (delivery : Delivery σ) (forward : Forward) :
    ∃ turns, (cascade levels delivery forward).value = (delivery.after turns).value := by
  induction levels generalizing delivery forward with
  | zero => exact ⟨[], by rw [Delivery.after_nil]; rfl⟩
  | succ levels ih =>
      obtain ⟨more, delivered, -⟩ := cascade_hits ih delivery forward
      exact ⟨_, delivered⟩

/-- The turns that the outputs of some nodes lead to. -/
theorem schedule_via (roster : Roster) (levels : Nat) (sample : Sample) {place : Nat} {node : Node}
    {active : Bool} (found : roster[place]? = some (node, active)) :
    (via roster (routes roster levels) place).map (arrival roster sample) =
      schedule roster levels node.kind (node.transform sample) := by
  simp only [via, found, schedule, List.map_map]
  apply List.map_congr_left
  intro walk listed
  have long : walk ≠ [] := (mem_routes.1 listed).1.ne_nil
  simp only [Function.comp_apply, arrival_cons roster sample place long, onward, found]

theorem forwards_of_outline {roster other : Roster} (same : outline roster = outline other)
    (forwards : ∀ entry ∈ other, entry.1.forwards = true) :
    ∀ entry ∈ roster, entry.1.forwards = true := by
  intro entry within
  have drawn : (entry.1.bare, entry.2) ∈ outline other :=
    same ▸ List.mem_map_of_mem within
  obtain ⟨twin, found, alike⟩ := List.mem_map.1 drawn
  have bare : twin.1.bare = entry.1.bare := congrArg Prod.fst alike
  rw [← Node.forwards_bare, ← bare, Node.forwards_bare]
  exact forwards twin found

/-- Outputs are delivered one by one, each to a roster that still has the
outline of the one they were made with. -/
theorem outputs_turns {levels : Nat} {roster : Roster} (sample : Sample)
    (cascades : ∀ (now : Delivery σ) (source : SensorKind) (sample : Sample),
      outline now.roster = outline roster →
      (now.after (schedule roster levels source sample)).Within
        (cascade levels now ⟨source, sample⟩))
    (places : List Nat) (now : Delivery σ) (same : outline now.roster = outline roster) :
    (now.after ((places.flatMap (via roster (routes roster levels))).map
        (arrival roster sample))).Within
      ((handedOn roster sample places).foldlM (fun now output => cascade levels now output) now) := by
  induction places generalizing now with
  | nil =>
      simp only [List.flatMap_nil, List.map_nil, Delivery.after_nil, handedOn,
        List.filterMap_nil, List.foldlM_nil]
      exact .refl _
  | cons place rest more =>
      rw [List.flatMap_cons, List.map_append, Delivery.after_append]
      cases found : roster[place]? with
      | none =>
          simp only [via, found, List.map_nil, Delivery.after_nil, pure_bind, handedOn,
            List.filterMap_cons, Option.map_none]
          exact more now same
      | some entry =>
          obtain ⟨node, active⟩ := entry
          have first := cascades now node.kind (node.transform sample) same
          simp only [schedule_via _ _ _ found, handedOn, List.filterMap_cons, found,
            Option.map_some, List.foldlM_cons]
          refine first.bind (more _ ?_)
          rw [← first.1, Delivery.outline_after, same]

/-- **A cascade takes the turns of its schedule**, and adds no note but those
about samples that would go too deep. -/
theorem cascade_turns (levels : Nat) (delivery : Delivery σ) (source : SensorKind) (sample : Sample)
    (forwards : ∀ entry ∈ delivery.roster, entry.1.forwards = true) :
    (delivery.after (schedule delivery.roster levels source sample)).Within
      (cascade levels delivery ⟨source, sample⟩) := by
  induction levels generalizing delivery source sample with
  | zero =>
      rw [schedule, routes, List.map_nil, Delivery.after_nil]
      exact ⟨rfl, List.nil_sublist _⟩
  | succ levels ih =>
      have level : (hits source delivery.roster).map (arrival delivery.roster sample ∘ ([·])) =
          (hits source delivery.roster).map (⟨·, sample⟩) := rfl
      have reversed : (handedOn delivery.roster sample (hits source delivery.roster)).reverse =
          handedOn delivery.roster sample (hits source delivery.roster).reverse := by
        simp [handedOn]
      rw [schedule, routes, List.map_append, Delivery.after_append, List.map_map, level, cascade,
        feed_turns source sample _ _ forwards, Delivery.after, bind_assoc, bind_assoc]
      refine (Logged.Within.refl _).bind ?_
      simp only [pure_bind, List.length_map, reversed]
      apply outputs_turns
      · intro now source sample same
        rw [← schedule_outline, ← same, schedule_outline]
        exact ih now source sample (forwards_of_outline same forwards)
      · rw [outline_zip, takeTurns_bare, outline_eq_zip]

end Levels

end Hub

end FusionSensors
