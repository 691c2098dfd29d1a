/-
# FusionSensors.Proofs.InPlace -- operations that change a hub bit by bit

An operation of a hub answers a new hub or a fault, so a hub that was refused
something is still there, unchanged. Here the operations are done in place
instead: node by node and field by field, with notes written in between, where
a fault leaves everything as it is at that moment (`InPlace`). Main statement,
`inPlace_outcome`: where handles are distinct, both ways give the same answers,
notes and hubs, so that each fault comes before the first change.
-/
import FusionSensors.Proofs.Reachable

namespace FusionSensors

set_option autoImplicit false

/-! ## Work in place -/

/-- Work that changes a state and writes notes. What was changed before a fault
stays changed. -/
abbrev InPlace (σ α : Type) := ExceptT Fault (StateT σ Logged) α

/-- What a value is turned into need only agree at that value. -/
theorem Logged.map_congr_value {α β : Type} {first : Logged α} {f g : α → β}
    (same : f first.value = g first.value) : f <$> first = g <$> first := by
  refine Logged.ext ?_ ?_
  · rw [value_map, value_map, same]
  · rw [notes_map, notes_map]

namespace InPlace

variable {σ τ α β : Type}

/-- The answer of work on a state, and what becomes of the state. -/
def outcome (work : InPlace σ α) (state : σ) : Logged (Except Fault α × σ) :=
  (ExceptT.run work).run state

/-- Work that is never refused. -/
def total (work : σ → Logged (σ × α)) : InPlace σ α :=
  ExceptT.mk fun state => (fun (after, answer) => (.ok answer, after)) <$> work state

/-- Writes notes. -/
def log (written : Logged α) : InPlace σ α :=
  ExceptT.mk fun state => (fun answer => (.ok answer, state)) <$> written

/-- Work on a part of a state. -/
def within (part : σ → τ) (replace : τ → σ → σ) (work : InPlace τ α) : InPlace σ α :=
  ExceptT.mk fun state =>
    (fun (answer, after) => (answer, replace after state)) <$> work.outcome (part state)

/-- Work on the first member of a list that fits; a fault if none does. -/
def first (fits : τ → Bool) (missing : Fault) (work : InPlace τ α) : InPlace (List τ) α :=
  ExceptT.mk search
where
  search : List τ → Logged (Except Fault α × List τ)
    | [] => pure (.error missing, [])
    | member :: rest =>
      if fits member then (fun (answer, after) => (answer, after :: rest)) <$> work.outcome member
      else (fun (answer, rest) => (answer, member :: rest)) <$> search rest

/-- Work on one member of a list after the other, up to the first fault. -/
def each (work : InPlace τ Unit) : InPlace (List τ) Unit := ExceptT.mk proceed
where
  proceed : List τ → Logged (Except Fault Unit × List τ)
    | [] => pure (.ok (), [])
    | member :: rest => do
      match ← work.outcome member with
      | (.error fault, after) => pure (.error fault, after :: rest)
      | (.ok (), after) => (fun (answer, rest) => (answer, after :: rest)) <$> proceed rest

@[simp] theorem outcome_pure (answer : α) (state : σ) :
    (pure answer : InPlace σ α).outcome state = pure (.ok answer, state) := rfl

@[simp] theorem outcome_get (state : σ) :
    (get : InPlace σ σ).outcome state = pure (.ok state, state) := rfl

@[simp] theorem outcome_within (part : σ → τ) (replace : τ → σ → σ) (work : InPlace τ α)
    (state : σ) : (within part replace work).outcome state =
      (fun (answer, after) => (answer, replace after state)) <$> work.outcome (part state) := rfl

/-- A fault ends the work, and the state stays as it was then. -/
theorem outcome_bind (work : InPlace σ α) (next : α → InPlace σ β) (state : σ) :
    (work >>= next).outcome state = work.outcome state >>= fun
      | (.ok answer, after) => (next answer).outcome after
      | (.error fault, after) => pure (.error fault, after) := by
  simp only [outcome, ExceptT.run_bind, StateT.run_bind]
  congr 1
  funext ended
  obtain ⟨answer, after⟩ := ended
  cases answer <;> rfl

theorem outcome_first_none {fits : τ → Bool} {missing : Fault} {work : InPlace τ α} {list : List τ}
    (absent : list.find? fits = none) :
    (first fits missing work).outcome list = pure (.error missing, list) := by
  induction list with
  | nil => rfl
  | cons member rest ih =>
      rw [List.find?_cons] at absent
      split at absent
      · cases absent
      · rename_i unfit
        have ih : first.search fits missing work rest = _ := ih absent
        show first.search fits missing work (member :: rest) = _
        rw [first.search, if_neg (by simp [unfit]), ih]
        rfl

/-- The work is done where it fits first; what stands before and behind stays. -/
theorem outcome_first_some {fits : τ → Bool} {missing : Fault} {work : InPlace τ α} {member : τ}
    {before rest : List τ} (fit : fits member = true)
    (others : ∀ other ∈ before, fits other = false) :
    (first fits missing work).outcome (before ++ member :: rest) =
      (fun (answer, after) => (answer, before ++ after :: rest)) <$> work.outcome member := by
  induction before with
  | nil =>
      show first.search fits missing work (member :: rest) = _
      rw [first.search, if_pos fit]
      rfl
  | cons other before ih =>
      have ih : first.search fits missing work (before ++ member :: rest) = _ :=
        ih fun later listed => others later (List.mem_cons_of_mem _ listed)
      show first.search fits missing work (other :: (before ++ member :: rest)) = _
      rw [first.search, if_neg (by simp [others other List.mem_cons_self]), ih, Functor.map_map]
      rfl

/-! ## All or nothing -/

/-- The outcome of an operation that leaves a state alone when it is refused. -/
def settled (state : σ) : Except Fault (Logged (σ × α)) → Logged (Except Fault α × σ)
  | .ok logged => (fun (after, answer) => (.ok answer, after)) <$> logged
  | .error fault => pure (.error fault, state)

end InPlace

open InPlace (settled outcome_bind outcome_get outcome_within)

/-! ## A pipe -/

/-- Writes an event. -/
def Pipe.writeInPlace (event : Event) : InPlace Pipe Unit := do
  let pipe ← get
  if pipe.readEnds = 0 then throw .pipeClosed
  else if pipe.capacity ≤ pipe.queue.length then throw .pipeFull
  else modify fun pipe => { pipe with queue := pipe.queue ++ [event] }

theorem Pipe.writeInPlace_outcome (pipe : Pipe) (event : Event) :
    (writeInPlace event).outcome pipe =
      settled pipe ((pipe.write event).map fun after => pure (after, ())) := by
  rw [writeInPlace, outcome_bind, outcome_get, pure_bind, write]
  dsimp only
  split
  · rfl
  · split <;> rfl

/-! ## A node -/

namespace Node

/-- Takes over what the node inherits, and tells of it. -/
def resolveInPlace (provider : Descriptor) : InPlace Node Unit := do
  modify fun node => { node with
    descriptor := node.descriptor.inherit provider node.inheritance }
  let node ← get
  .log (.note (.resolved node.descriptor.name node.descriptor.handle provider.name))

/-- Takes over what the node inherits, if the provider's kind triggers it. -/
def meetInPlace (provider : Descriptor) : InPlace Node Unit := do
  let node ← get
  if node.triggerKind = some provider.kind then resolveInPlace provider else pure ()

/-- Requests a period and answers the supported one that was set. -/
def setPeriodInPlace (period : Int) : InPlace Node Int := do
  if period ≤ 0 then throw (.invalidPeriod period)
  else
    let node ← get
    let effective := node.descriptor.clampPeriod period
    modify fun node => { node with gate := node.gate.request effective }
    .log (.note (.periodSet node.descriptor.name node.handle effective))
    return effective

/-- Enables or disables the node, if it is not so already. -/
def switchInPlace (on : Bool) (now : Int) : InPlace Node Unit := do
  let node ← get
  if on = node.isEnabled then pure ()
  else
    modify fun node => { node with gate := node.gate.reset }
    if on then modify fun node => { node with session := some ⟨now, node.warmup⟩ }
    else modify fun node => { node with session := none, output := none }
    .log (.note (.switched node.descriptor.name node.handle on))

/-- Enables or disables the node, which has the default period set first if it
is to be enabled without one. -/
def startInPlace (defaultPeriod : Int) (on : Bool) (now : Int) : InPlace Node Unit := do
  let node ← get
  if on ∧ node.period = 0 then
    let _ ← setPeriodInPlace defaultPeriod
    switchInPlace on now
  else switchInPlace on now

/-- Answers the handle of the node, which must be enabled. -/
def enabledInPlace : InPlace Node Int := do
  let node ← get
  if node.isEnabled then pure node.handle else throw (.notEnabled node.handle)

theorem meetInPlace_outcome (node : Node) (provider : Descriptor) :
    (meetInPlace provider).outcome node = settled node (.ok ((·, ()) <$>
      if node.triggerKind = some provider.kind then node.resolve provider else pure node)) := by
  rw [meetInPlace, outcome_bind, outcome_get, pure_bind]
  dsimp only
  split <;> rfl

theorem setPeriodInPlace_outcome (node : Node) (period : Int) :
    (setPeriodInPlace period).outcome node = settled node (node.setPeriod period) := by
  rw [setPeriodInPlace, setPeriod]
  split <;> rfl

theorem switchInPlace_outcome (node : Node) (on : Bool) (now : Int) :
    (switchInPlace on now).outcome node = settled node (.ok ((·, ()) <$> node.switch on now)) := by
  rw [switchInPlace, outcome_bind, outcome_get, pure_bind, switch]
  dsimp only
  split
  · rfl
  · cases on <;> rfl

/-- A default period that is not accepted is found out before the node is switched. -/
theorem startInPlace_outcome (node : Node) (defaultPeriod : Int) (on : Bool) (now : Int) :
    (startInPlace defaultPeriod on now).outcome node =
      settled node ((node.started defaultPeriod on now).map ((·, ()) <$> ·)) := by
  rw [startInPlace, outcome_bind, outcome_get, pure_bind, started]
  dsimp only
  split
  · rw [outcome_bind, setPeriodInPlace_outcome]
    cases node.setPeriod defaultPeriod with
    | error fault => rfl
    | ok set =>
        simp only [settled, Except.map, map_eq_pure_bind, bind_assoc, pure_bind,
          switchInPlace_outcome]
  · rw [switchInPlace_outcome]
    rfl

theorem enabledInPlace_outcome (node : Node) :
    enabledInPlace.outcome node = settled node (if node.isEnabled then .ok (pure (node, node.handle))
      else .error (.notEnabled node.handle)) := by
  rw [enabledInPlace, outcome_bind, outcome_get, pure_bind]
  dsimp only
  split <;> rfl

end Node

/-! ## A hub -/

namespace Hub

/-- Work on the nodes. -/
def onNodes {α : Type} (work : InPlace (List Node) α) : InPlace Hub α :=
  .within Hub.nodes (fun nodes hub => { hub with nodes := nodes }) work

/-- Work on the node with a handle. -/
def onNode {α : Type} (handle : Int) (work : InPlace Node α) : InPlace Hub α :=
  onNodes (.first (·.handle == handle) (.unknownHandle handle) work)

/-- Registers a node: it meets its source, and goes to the end. -/
def registerInPlace (node : Node) : InPlace Hub Unit := do
  let hub ← get
  if hub.usesHandle node.handle then throw (.duplicateHandle node.handle)
  else
    match node.triggerKind with
    | none => throw (.invalidDependency (.noTrigger node.handle))
    | some trigger =>
      if node.dependencies.contains node.kind then
        throw (.invalidDependency (.ownOutput node.handle))
      else
        let node ← .log (match hub.source? trigger with
          | some source => node.resolve source
          | none => pure node)
        .log (.note (.registered node.descriptor.name node.handle node.descriptor.dotted))
        modify fun hub => { hub with nodes := hub.nodes ++ [node] }

/-- Registers a provider: the nodes meet it one after the other, and it joins
the other providers. -/
def registerProviderInPlace (provider : Descriptor) : InPlace Hub Unit := do
  let hub ← get
  if (hub.provider? provider.kind).isSome then
    throw (.invalidDependency (.alreadyProvided provider.dotted))
  else if hub.usesHandle provider.handle then throw (.duplicateHandle provider.handle)
  else
    onNodes (.each (Node.meetInPlace provider))
    modify fun hub => { hub with providers := provider.insertByHandle hub.providers }

/-- Enables or disables a node. -/
def switchInPlace (handle : Int) (on : Bool) (now : Int) : InPlace Hub Unit := do
  let hub ← get
  onNode handle (Node.startInPlace hub.defaultPeriod on now)

/-- Requests a period of a node. -/
def setPeriodInPlace (handle : Int) (period : Int) : InPlace Hub Int :=
  onNode handle (Node.setPeriodInPlace period)

/-- Has an enabled node write a flush mark. -/
def flushInPlace (handle : Int) (now : Int) : InPlace Hub Unit := do
  let sensor ← onNode handle Node.enabledInPlace
  .within Hub.pipe (fun pipe hub => { hub with pipe := pipe })
    (Pipe.writeInPlace (.flushMark sensor now))

/-- Looks the counters of a node up. -/
def statsInPlace (handle : Int) : InPlace Hub Stats :=
  onNode handle do
    let node ← get
    return node.stats

section Nodes

variable {hub : Hub} {handle : Int} {node : Node} {α : Type} {work : InPlace Node α}

/-- A handle that no node has is a fault, and nothing is done. -/
theorem onNode_unknown (unknown : hub.node? handle = none) (work : InPlace Node α) :
    (onNode handle work).outcome hub = pure (.error (.unknownHandle handle), hub) := by
  rw [onNode, onNodes, outcome_within, InPlace.outcome_first_none unknown]
  rfl

/-- Where handles are distinct, the node that is put in place is the one found. -/
theorem put_split (distinct : (hub.nodes.map Node.handle).Nodup) {after : Node}
    {before rest : List Node} (nodes : hub.nodes = before ++ node :: rest)
    (kept : after.handle = node.handle) :
    hub.put after = { hub with nodes := before ++ after :: rest } := by
  rw [nodes, List.map_append, List.map_cons, List.nodup_append, List.nodup_cons] at distinct
  obtain ⟨-, ⟨later, -⟩, earlier⟩ := distinct
  have others : ∀ list : List Node, node.handle ∉ list.map Node.handle →
      list.map (fun old => if old.handle = after.handle then after else old) = list := by
    intro list absent
    refine (List.map_congr_left fun old listed => if_neg ?_).trans (List.map_id list)
    rw [kept]
    rintro same
    exact absent (same ▸ List.mem_map_of_mem listed)
  rw [put, nodes, List.map_append, List.map_cons, if_pos kept.symm, others rest later,
    others before]
  exact fun named => earlier _ named _ List.mem_cons_self rfl

/-- A node put where it is already changes nothing. -/
theorem put_self (distinct : (hub.nodes.map Node.handle).Nodup) (known : node ∈ hub.nodes) :
    hub.put node = hub := by
  obtain ⟨before, rest, nodes⟩ := List.append_of_mem known
  rw [put_split distinct nodes rfl, ← nodes]

/-- What is all or nothing for a node is so for the hub. -/
theorem onNode_known (distinct : (hub.nodes.map Node.handle).Nodup)
    (found : hub.node? handle = some node) {result : Except Fault (Logged (Node × α))}
    (same : work.outcome node = settled node result)
    (kept : ∀ logged, result = .ok logged → logged.value.1.handle = node.handle) :
    (onNode handle work).outcome hub =
      settled hub (result.map ((fun (after, answer) => (hub.put after, answer)) <$> ·)) := by
  obtain ⟨fits, before, rest, nodes, others⟩ := List.find?_eq_some_iff_append.1 found
  have unfit : ∀ other ∈ before, (other.handle == handle) = false :=
    fun other listed => by simpa using others other listed
  have searched : (InPlace.first (·.handle == handle) (.unknownHandle handle) work).outcome
      (before ++ node :: rest) = _ := InPlace.outcome_first_some fits unfit
  rw [onNode, onNodes, outcome_within, nodes, searched, same]
  cases result with
  | error fault =>
      show pure (Except.error fault, { hub with nodes := before ++ node :: rest }) = _
      rw [← nodes]
      rfl
  | ok logged =>
      have put := put_split distinct nodes (kept logged rfl)
      simp only [settled, Except.map, Functor.map_map]
      exact Logged.map_congr_value (congrArg (Prod.mk _) put.symm)

end Nodes

/-! ## Operations in place -/

section Operations

variable {hub : Hub} {handle : Int} {node : Node}

theorem registerInPlace_outcome (node : Node) :
    (registerInPlace node).outcome hub =
      settled hub ((hub.register node).map ((·, ()) <$> ·)) := by
  rw [registerInPlace, outcome_bind, outcome_get, pure_bind, register]
  dsimp only
  split
  · rfl
  · cases node.triggerKind with
    | none => rfl
    | some trigger =>
        dsimp only
        split
        · rfl
        · cases hub.source? trigger <;> rfl

theorem each_meetInPlace (provider : Descriptor) (nodes : List Node) :
    (InPlace.each (Node.meetInPlace provider)).outcome nodes =
      settled nodes (.ok ((·, ()) <$> meet provider nodes)) := by
  induction nodes with
  | nil => rfl
  | cons node rest ih =>
      have ih : InPlace.each.proceed (Node.meetInPlace provider) rest = _ := ih
      show InPlace.each.proceed (Node.meetInPlace provider) (node :: rest) = _
      rw [InPlace.each.proceed, Node.meetInPlace_outcome, ih, meet]
      split <;> rfl

theorem registerProviderInPlace_outcome (provider : Descriptor) :
    (registerProviderInPlace provider).outcome hub =
      settled hub ((hub.registerProvider provider).map ((·, ()) <$> ·)) := by
  rw [registerProviderInPlace, outcome_bind, outcome_get, pure_bind, registerProvider]
  dsimp only
  split
  · rfl
  · split
    · rfl
    · rw [outcome_bind, onNodes, outcome_within, each_meetInPlace]
      simp only [settled, Except.map, map_eq_pure_bind, bind_assoc, pure_bind]
      rfl

theorem setPeriodInPlace_outcome (distinct : (hub.nodes.map Node.handle).Nodup)
    (handle period : Int) :
    (setPeriodInPlace handle period).outcome hub = settled hub (hub.setPeriod handle period) := by
  cases found : hub.node? handle with
  | none =>
      rw [setPeriodInPlace, onNode_unknown found, setPeriod_unknown found]
      rfl
  | some node =>
      rw [setPeriodInPlace, setPeriod_found found]
      refine onNode_known distinct found (Node.setPeriodInPlace_outcome node period) ?_
      exact fun logged accepted => Node.handle_eq_of_bare (Node.setPeriod_bare accepted)

theorem switchInPlace_outcome (distinct : (hub.nodes.map Node.handle).Nodup)
    (handle : Int) (on : Bool) (now : Int) :
    (switchInPlace handle on now).outcome hub =
      settled hub ((hub.switch handle on now).map ((·, ()) <$> ·)) := by
  rw [switchInPlace, outcome_bind, outcome_get, pure_bind]
  dsimp only
  cases found : hub.node? handle with
  | none =>
      rw [onNode_unknown found, switch_unknown found]
      rfl
  | some node =>
      have switched := node.startInPlace_outcome hub.defaultPeriod on now
      rw [switch_found found, onNode_known distinct found switched]
      · cases node.started hub.defaultPeriod on now with
        | error fault => rfl
        | ok logged => simp only [Except.map, Functor.map_map]
      · intro logged accepted
        cases started : node.started hub.defaultPeriod on now with
        | error fault =>
            rw [started] at accepted
            cases accepted
        | ok switched =>
            rw [started] at accepted
            cases accepted
            exact Node.started_handle started

theorem flushInPlace_outcome (distinct : (hub.nodes.map Node.handle).Nodup) (handle now : Int) :
    (flushInPlace handle now).outcome hub =
      settled hub (((hub.flush handle now).map pure).map ((·, ()) <$> ·)) := by
  rw [flushInPlace, outcome_bind]
  cases found : hub.node? handle with
  | none =>
      rw [onNode_unknown found, flush_unknown found]
      rfl
  | some node =>
      rw [onNode_known distinct found node.enabledInPlace_outcome, flush_found found]
      · split
        · simp only [settled, Except.map, map_pure, pure_bind]
          rw [put_self distinct (node?_some found).1, outcome_within, Pipe.writeInPlace_outcome]
          cases hub.pipe.write (.flushMark node.handle now) <;> rfl
        · rfl
      · intro logged accepted
        split at accepted
        · cases accepted
          rfl
        · cases accepted

theorem statsInPlace_outcome (distinct : (hub.nodes.map Node.handle).Nodup) (handle : Int) :
    (statsInPlace handle).outcome hub = pure (hub.stats handle, hub) := by
  rw [statsInPlace, stats]
  cases found : hub.node? handle with
  | none =>
      rw [onNode_unknown found, node_of_none found]
      rfl
  | some node =>
      have read : InPlace.outcome (do let node ← get; return node.stats) node =
          settled node (.ok (pure (node, node.stats))) := rfl
      rw [onNode_known distinct found read, node_of_found found]
      · show pure (Except.ok node.stats, hub.put node) = _
        rw [put_self distinct (node?_some found).1]
        rfl
      · rintro logged ⟨⟩
        rfl

end Operations

/-! ## Commands in place -/

/-- A command in place. What is delivered or read is never refused. -/
def Command.inPlace (now : Int) : Command → InPlace Hub Reply
  | .register node => do registerInPlace node; return .done
  | .registerProvider provider => do registerProviderInPlace provider; return .done
  | .switch handle on => do switchInPlace handle on now; return .done
  | .setPeriod handle period => do return .period (← setPeriodInPlace handle period)
  | .flush handle => do flushInPlace handle now; return .done
  | .deliver source sample => .total fun hub => hub.perform now (.deliver source sample)
  | .poll max => .total fun hub => hub.perform now (.poll max)

/-- What a hub answers, with a refusal as a fault. -/
def answered : Hub × Reply → Except Fault Reply × Hub
  | (hub, .refused fault) => (.error fault, hub)
  | (hub, reply) => (.ok reply, hub)

section Answers

variable {hub : Hub}

/-- Work that is all or nothing answers what a hub does. -/
theorem outcome_settle {α : Type} {work : InPlace Hub α} {result : Except Fault (Logged (Hub × α))}
    (same : work.outcome hub = settled hub result) (reply : α → Reply)
    (accepts : ∀ after answer, answered (after, reply answer) = (.ok (reply answer), after)) :
    (do return reply (← work) : InPlace Hub Reply).outcome hub =
      answered <$> hub.settle result fun (after, answer) => (after, reply answer) := by
  rw [outcome_bind, same]
  cases result with
  | error fault => rfl
  | ok logged =>
      simp only [settled, settle, map_eq_pure_bind, bind_assoc, pure_bind, InPlace.outcome_pure,
        accepts]

theorem outcome_done {work : InPlace Hub Unit} {result : Except Fault (Logged Hub)}
    (same : work.outcome hub = settled hub (result.map ((·, ()) <$> ·))) :
    (do work; return .done : InPlace Hub Reply).outcome hub =
      answered <$> hub.settle result (·, .done) := by
  refine (outcome_settle same (fun _ => .done) fun _ _ => rfl).trans (congrArg _ ?_)
  cases result with
  | error fault => rfl
  | ok logged => simp only [settle, Except.map, Functor.map_map]

/-- **Commands in place do what commands do.** -/
theorem inPlace_outcome (distinct : (hub.nodes.map Node.handle).Nodup) (now : Int)
    (command : Command) :
    (command.inPlace now).outcome hub = answered <$> hub.perform now command := by
  cases command with
  | register node => exact outcome_done (registerInPlace_outcome node)
  | registerProvider provider => exact outcome_done (registerProviderInPlace_outcome provider)
  | switch handle on => exact outcome_done (switchInPlace_outcome distinct handle on now)
  | setPeriod handle period =>
      exact outcome_settle (setPeriodInPlace_outcome distinct handle period) .period fun _ _ => rfl
  | flush handle => exact outcome_done (flushInPlace_outcome distinct handle now)
  | deliver source sample => rfl
  | poll max => rfl

end Answers

end Hub

end FusionSensors
