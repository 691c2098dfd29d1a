/-
# FusionSensors.Proofs.Refusal -- what is refused has changed nothing

Main statement, `run_allOrNothing`: on every hub that commands lead to, an
operation in place does all of what the command does or nothing at all, not even
a note, and it does nothing exactly if it is `Barred`. `register_refuses`,
`switch_refuses` and their like give the condition for one operation each; they
rely on distinct handles, a positive default period and a pipe that is read
(`Steady`), which every command keeps.
-/
import FusionSensors.Proofs.InPlace

namespace FusionSensors

set_option autoImplicit false

namespace Hub

/-! ## What operations rely on -/

/-- A node is found by its handle, can be enabled without a period, and finds
the pipe open. -/
structure Steady (hub : Hub) : Prop where
  handles : (hub.descriptors.map Descriptor.handle).Nodup
  period : 0 < hub.defaultPeriod
  reading : hub.pipe.readEnds ≠ 0

theorem Made.run_steady {start : Hub} (made : start.Made) (commands : List (Int × Command)) :
    (start.run commands).Steady := by
  refine made.run_induct (P := Steady) ?_ ?_ commands
  · exact fun capacity period positive => ⟨List.nodup_nil, positive, Nat.one_ne_zero⟩
  · intro hub now command steady
    have effect := hub.perform_effect now command
    refine ⟨effect.distinct steady.handles, effect.defaultPeriod ▸ steady.period, ?_⟩
    refine effect.pipe (P := fun pipe => pipe.readEnds ≠ 0) ?_ ?_ steady.reading
    · intro pipe event after reading written
      obtain ⟨-, -, rfl⟩ := Pipe.write_ok written
      exact reading
    · exact fun pipe max reading => reading

/-! ## What is refused -/

/-- What a command is refused for. -/
def Command.Barred (hub : Hub) : Command → Prop
  | .register node => node.handle ∈ hub.descriptors.map Descriptor.handle ∨
      node.triggerKind = none ∨ node.kind ∈ node.dependencies
  | .registerProvider provider => provider.kind ∈ hub.providers.map Descriptor.kind ∨
      provider.handle ∈ hub.descriptors.map Descriptor.handle
  | .switch handle _ => handle ∉ hub.nodes.map Node.handle
  | .setPeriod handle period => handle ∉ hub.nodes.map Node.handle ∨ period ≤ 0
  | .flush handle => (∀ node ∈ hub.nodes, node.handle = handle → node.isEnabled = false) ∨
      hub.pipe.capacity ≤ hub.pipe.queue.length
  | .deliver .. | .poll .. => False

section Refusals

variable {hub : Hub}

theorem settle_refused {α : Type} {result : Except Fault (Logged α)} {answer : α → Hub × Reply}
    (accepts : ∀ a fault, (answer a).2 ≠ .refused fault) {fault : Fault}
    (refused : (hub.settle result answer).value.2 = .refused fault) : result = .error fault := by
  cases result with
  | error other =>
      cases refused
      rfl
  | ok logged => exact absurd refused (accepts logged.value fault)

theorem settle_refuses {α : Type} {result : Except Fault (Logged α)} {answer : α → Hub × Reply}
    (accepts : ∀ a fault, (answer a).2 ≠ .refused fault) :
    (∃ fault, (hub.settle result answer).value.2 = .refused fault) ↔
      ∃ fault, result = .error fault := by
  constructor
  · exact fun ⟨fault, refused⟩ => ⟨fault, settle_refused accepts refused⟩
  · rintro ⟨fault, rfl⟩
    exact ⟨fault, rfl⟩

theorem usesHandle_eq_true {handle : Int} :
    hub.usesHandle handle = true ↔ handle ∈ hub.descriptors.map Descriptor.handle := by
  rw [← Bool.not_eq_false, usesHandle_eq_false, not_not]

theorem register_refuses (node : Node) : (∃ fault, hub.register node = .error fault) ↔
    node.handle ∈ hub.descriptors.map Descriptor.handle ∨
      node.triggerKind = none ∨ node.kind ∈ node.dependencies := by
  rw [register, ← usesHandle_eq_true, ← List.contains_iff_mem]
  split
  · rename_i used
    exact iff_of_true ⟨_, rfl⟩ (.inl used)
  · rename_i unused
    rw [or_iff_right unused]
    cases node.triggerKind with
    | none => exact iff_of_true ⟨_, rfl⟩ (.inl rfl)
    | some trigger =>
        dsimp only
        split
        · rename_i own
          exact iff_of_true ⟨_, rfl⟩ (.inr own)
        · rename_i foreign
          exact iff_of_false (by simp) (by simpa using foreign)

theorem registerProvider_refuses (provider : Descriptor) :
    (∃ fault, hub.registerProvider provider = .error fault) ↔
      provider.kind ∈ hub.providers.map Descriptor.kind ∨
        provider.handle ∈ hub.descriptors.map Descriptor.handle := by
  have provided : (hub.provider? provider.kind).isSome = true ↔
      provider.kind ∈ hub.providers.map Descriptor.kind := by
    simp [provider?, List.find?_isSome]
  rw [registerProvider, ← usesHandle_eq_true, ← provided]
  split
  · rename_i taken
    exact iff_of_true ⟨_, rfl⟩ (.inl taken)
  · rename_i first
    rw [or_iff_right first]
    split
    · rename_i used
      exact iff_of_true ⟨_, rfl⟩ used
    · rename_i unused
      exact iff_of_false (by simp) unused

theorem setPeriod_refuses (handle period : Int) :
    (∃ fault, hub.setPeriod handle period = .error fault) ↔
      handle ∉ hub.nodes.map Node.handle ∨ period ≤ 0 := by
  rw [← node?_eq_none]
  cases found : hub.node? handle with
  | none => simp [setPeriod_unknown found]
  | some node =>
      rw [setPeriod_found found, or_iff_right (by simp), Node.setPeriod]
      split
      · rename_i invalid
        exact iff_of_true ⟨_, rfl⟩ invalid
      · rename_i positive
        exact iff_of_false (by simp [Except.map]) positive

/-- The default period is accepted, so switching a node that is there succeeds. -/
theorem switch_refuses (positive : 0 < hub.defaultPeriod) (handle : Int) (on : Bool) (now : Int) :
    (∃ fault, hub.switch handle on now = .error fault) ↔ handle ∉ hub.nodes.map Node.handle := by
  rw [← node?_eq_none]
  cases found : hub.node? handle with
  | none => simp [switch_unknown found]
  | some node =>
      obtain ⟨logged, started, -⟩ := started_readied positive on now node
      simp [switch_found found, started, Except.map]

theorem stats_refuses (handle : Int) : (∃ fault, hub.stats handle = .error fault) ↔
    handle ∉ hub.nodes.map Node.handle := by
  rw [← node?_eq_none, stats]
  cases found : hub.node? handle with
  | none => simp [node_of_none found, Except.map]
  | some node => simp [node_of_found found, Except.map]

theorem flush_refuses (steady : hub.Steady) (handle now : Int) :
    (∃ fault, hub.flush handle now = .error fault) ↔
      (∀ node ∈ hub.nodes, node.handle = handle → node.isEnabled = false) ∨
        hub.pipe.capacity ≤ hub.pipe.queue.length := by
  cases found : hub.node? handle with
  | none =>
      rw [flush_unknown found]
      refine iff_of_true ⟨_, rfl⟩ (.inl fun node listed same => ?_)
      exact absurd (same ▸ List.mem_map_of_mem listed) (node?_eq_none.1 found)
  | some node =>
      obtain ⟨known, rfl⟩ := node?_some found
      have only : (∀ other ∈ hub.nodes, other.handle = node.handle → other.isEnabled = false) ↔
          ¬ node.isEnabled = true := by
        constructor
        · exact fun off => by simp [off node known rfl]
        · intro off other listed same
          rw [List.inj_on_of_nodup_map (nodes_distinct steady.handles) listed known same]
          exact Bool.not_eq_true _ ▸ off
      rw [flush_found found, only, Pipe.write, if_neg steady.reading]
      split
      · rename_i enabled
        rw [or_iff_right (not_not.2 enabled)]
        split
        · rename_i full
          exact iff_of_true ⟨_, rfl⟩ full
        · rename_i room
          exact iff_of_false (by simp [Except.map]) room
      · rename_i disabled
        exact iff_of_true ⟨_, rfl⟩ (.inl disabled)

/-- A fault is answered to a command that is barred, and to no other. -/
theorem refused_iff (steady : hub.Steady) (now : Int) (command : Command) :
    (∃ fault, (hub.perform now command).value.2 = .refused fault) ↔ command.Barred hub := by
  cases command with
  | register node => exact (settle_refuses (by simp)).trans (register_refuses node)
  | registerProvider provider =>
      exact (settle_refuses (by simp)).trans (registerProvider_refuses provider)
  | switch handle on =>
      exact (settle_refuses (by simp)).trans (switch_refuses steady.period handle on now)
  | setPeriod handle period =>
      exact (settle_refuses (by simp)).trans (setPeriod_refuses handle period)
  | flush handle =>
      refine (settle_refuses (by simp)).trans (Iff.trans ?_ (flush_refuses steady handle now))
      cases hub.flush handle now <;> simp [Except.map]
  | deliver source sample =>
      refine ⟨?_, False.elim⟩
      rintro ⟨fault, ⟨⟩⟩
  | poll max =>
      refine ⟨?_, False.elim⟩
      rintro ⟨fault, ⟨⟩⟩

/-- A refusal is all that a refused command comes to. -/
theorem perform_refused {now : Int} {command : Command} {fault : Fault}
    (refused : (hub.perform now command).value.2 = .refused fault) :
    hub.perform now command = pure (hub, .refused fault) := by
  cases command with
  | register | registerProvider | switch | setPeriod | flush =>
      have failed := settle_refused (by simp) refused
      rw [perform, failed, settle]
  | deliver | poll => cases refused

theorem answered_error {pair : Hub × Reply} {fault : Fault} :
    (answered pair).1 = .error fault ↔ pair.2 = .refused fault := by
  obtain ⟨after, reply⟩ := pair
  cases reply <;> simp [answered]

end Refusals

/-! ## All or nothing -/

/-- What a command in place does to a hub: what the command does, all of it or
nothing, and nothing exactly if it is barred. -/
structure AllOrNothing (hub : Hub) (now : Int) (command : Command) : Prop where
  same : (command.inPlace now).outcome hub = answered <$> hub.perform now command
  unchanged : ∀ fault, ((command.inPlace now).outcome hub).value.1 = .error fault →
    (command.inPlace now).outcome hub = pure (.error fault, hub)
  barred : (∃ fault, ((command.inPlace now).outcome hub).value.1 = .error fault) ↔
    command.Barred hub

/-- **An operation that is refused has changed nothing**, and is refused for the
named reasons only. Counters are looked up without a change, of every node. -/
theorem run_allOrNothing {start : Hub} (made : start.Made) (commands : List (Int × Command)) :
    (∀ now command, AllOrNothing (start.run commands) now command) ∧
      ∀ handle, (statsInPlace handle).outcome (start.run commands) =
          pure ((start.run commands).stats handle, start.run commands) ∧
        ((∃ fault, (start.run commands).stats handle = .error fault) ↔
          handle ∉ (start.run commands).nodes.map Node.handle) := by
  have steady := made.run_steady commands
  have distinct := nodes_distinct steady.handles
  constructor
  · intro now command
    have same := inPlace_outcome distinct now command
    have refused : ∀ fault, ((command.inPlace now).outcome (start.run commands)).value.1 =
        .error fault ↔ ((start.run commands).perform now command).value.2 = .refused fault := by
      intro fault
      rw [same, Logged.value_map, answered_error]
    constructor
    case same => exact same
    case unchanged =>
        intro fault failed
        rw [same, perform_refused ((refused fault).1 failed)]
        rfl
    case barred => exact (exists_congr refused).trans (refused_iff steady now command)
  · exact fun handle => ⟨statsInPlace_outcome distinct handle, stats_refuses handle⟩

/-- An enabled sensor has its flush mark in a pipe for one event. -/
def markedPipe : List (Int × Command) :=
  [(0, .register (Leaf.gravity.node "gravity" 1)), (0, .switch 1 true), (1, .flush 1)]

/-- There is no room for a second mark. -/
theorem markedPipe_unchanged : (Hub.new 1).Made ∧
    (Command.flush 1).Barred ((Hub.new 1).run markedPipe) ∧
    ((Command.flush 1).inPlace 2).outcome ((Hub.new 1).run markedPipe) =
      pure (.error .pipeFull, (Hub.new 1).run markedPipe) := by
  obtain ⟨same, unchanged, barred⟩ := (run_allOrNothing (.empty 1) markedPipe).1 2 (.flush 1)
  have full : (((Command.flush 1).inPlace 2).outcome ((Hub.new 1).run markedPipe)).value.1 =
      .error .pipeFull := by
    rw [same]
    rfl
  exact ⟨.empty 1, barred.1 ⟨_, full⟩, unchanged _ full⟩

end Hub

end FusionSensors
