/-
# FusionSensors.Proofs.Reachable -- the states a hub can get to

A hub is made empty or from a configuration, and from then on commands are
performed on it; nodes are registered as they were built. What holds of a hub
without sensors and is kept by every command holds of each such hub
(`Reachable.induct`). The first thing that does is `Sound`: handles are
distinct, events carry the handle of their node, an enabled node has a
positive period, and the pipe stays open and within its capacity. What holds of
a hub whatever the nodes that it is given holds after every run
(`Made.run_induct`).
-/
import FusionSensors.Hub.Setup
import FusionSensors.Proofs.Operation
import Mathlib.Data.List.Induction

namespace FusionSensors

set_option autoImplicit false

/-! ## Distinct handles -/

theorem Config.firstRepeated_eq_none {seen list : List Int} :
    Config.firstRepeated seen list = none ↔ list.Nodup ∧ ∀ handle ∈ list, handle ∉ seen := by
  induction list generalizing seen with
  | nil => simp [firstRepeated]
  | cons handle rest ih =>
      rw [firstRepeated]
      by_cases again : handle ∈ seen
      · simp [again]
      · rw [if_neg (by simpa using again), ih, List.nodup_cons, List.forall_mem_cons]
        constructor
        · rintro ⟨distinct, others⟩
          refine ⟨⟨fun within => others handle within List.mem_cons_self, distinct⟩, again, ?_⟩
          exact fun other within seen => others other within (List.mem_cons_of_mem _ seen)
        · rintro ⟨⟨first, distinct⟩, -, others⟩
          refine ⟨distinct, fun other within => ?_⟩
          rw [List.mem_cons, not_or]
          exact ⟨fun same => first (same ▸ within), others other within⟩

/-! ## Reachable hubs -/

/-- A node to which nothing has happened since it was built. -/
structure Node.Fresh (node : Node) : Prop where
  event : ∃ shape, node.event = .blank node.handle node.kind shape
  gate : node.gate = {}
  session : node.session = none
  output : node.output = none
  stats : node.stats = {}

namespace Hub

/-- A node is registered as it was built. -/
def Command.Fresh : Command → Prop
  | .register node => node.Fresh
  | _ => True

/-- The hubs that can be made. -/
inductive Made : Hub → Prop
  | empty (capacity : Nat) : Made (.new capacity)
  | configured {config : Config} {logged : Logged Hub} (valid : ofConfig config = .ok logged) :
      Made logged.value

/-- The hubs that commands lead to. -/
inductive Reachable : Hub → Prop
  | made {hub : Hub} (made : hub.Made) : Reachable hub
  | performed {hub : Hub} (reachable : Reachable hub) (now : Int) {command : Command}
      (fresh : command.Fresh) : Reachable (hub.perform now command).value.1

theorem Reachable.run {hub : Hub} (reachable : hub.Reachable) {commands : List (Int × Command)}
    (fresh : ∀ entry ∈ commands, entry.2.Fresh) : (hub.run commands).Reachable := by
  induction commands generalizing hub with
  | nil => exact reachable
  | cons entry rest ih =>
      have first : (hub.perform entry.1 entry.2).value.1.Reachable :=
        .performed reachable entry.1 (fresh entry List.mem_cons_self)
      exact ih first fun later within => fresh later (List.mem_cons_of_mem _ within)

/-! ## Runs -/

theorem run_append (hub : Hub) (first second : List (Int × Command)) :
    hub.run (first ++ second) = (hub.run first).run second := List.foldl_append

theorem run_concat (hub : Hub) (commands : List (Int × Command)) (now : Int) (command : Command) :
    hub.run (commands ++ [(now, command)]) =
      ((hub.run commands).perform now command).value.1 := run_append hub commands _

/-- What a hub answers to a sequence of commands. -/
def replies (hub : Hub) : List (Int × Command) → List Reply
  | [] => []
  | (now, command) :: rest =>
    (hub.perform now command).value.2 :: replies (hub.perform now command).value.1 rest

/-- The notes that a hub writes on a sequence of commands. -/
def log (hub : Hub) : List (Int × Command) → List Note
  | [] => []
  | (now, command) :: rest =>
    (hub.perform now command).notes ++ (hub.perform now command).value.1.log rest

theorem replies_append (hub : Hub) (first second : List (Int × Command)) :
    hub.replies (first ++ second) = hub.replies first ++ (hub.run first).replies second := by
  induction first generalizing hub with
  | nil => rfl
  | cons entry rest ih =>
      rw [List.cons_append, replies, replies, ih]
      rfl

theorem log_append (hub : Hub) (first second : List (Int × Command)) :
    hub.log (first ++ second) = hub.log first ++ (hub.run first).log second := by
  induction first generalizing hub with
  | nil => rfl
  | cons entry rest ih =>
      rw [List.cons_append, log, log, ih, List.append_assoc]
      rfl

/-- The events that an answer holds. -/
def Reply.taken : Reply → List Event
  | .events list => list
  | _ => []

/-- The events taken out of the pipe by a sequence of commands, oldest first. -/
def polled (hub : Hub) (commands : List (Int × Command)) : List Event :=
  (hub.replies commands).flatMap Reply.taken

/-- All events of a sequence of commands: those taken out of the pipe and those
left in it. -/
def stream (hub : Hub) (commands : List (Int × Command)) : List Event :=
  hub.polled commands ++ (hub.run commands).pipe.queue

theorem stream_cons (hub : Hub) (now : Int) (command : Command) (rest : List (Int × Command)) :
    hub.stream ((now, command) :: rest) =
      (hub.perform now command).value.2.taken ++ (hub.perform now command).value.1.stream rest := by
  rw [stream, stream, polled, replies, List.flatMap_cons, List.append_assoc]
  rfl

/-! ## Hubs as they are made -/

/-- A hub without sensors. -/
def bare (capacity : Nat) (period : Int) : Hub := { Hub.new capacity with defaultPeriod := period }

theorem leaf_fresh (leaf : Leaf) (name : String) (handle : Int) : (leaf.node name handle).Fresh where
  event := ⟨leaf.shape, rfl⟩
  gate := rfl
  session := rfl
  output := rfl
  stats := rfl

theorem follower_fresh (handle : Int) (driver kind : SensorKind) :
    (Node.follower handle driver kind).Fresh where
  event := ⟨.axis4, rfl⟩
  gate := rfl
  session := rfl
  output := rfl
  stats := rfl

theorem configured_fresh (config : Config) (entry : LeafEntry) : (configured config entry).Fresh where
  event := ⟨entry.leaf.shape, rfl⟩
  gate := rfl
  session := rfl
  output := rfl
  stats := rfl

/-- What a configuration is checked for. -/
theorem validate_iff {config : Config} : config.validate = .ok () ↔
    0 < config.pipeCapacity ∧ 0 < config.defaultPeriod ∧ config.handles.Nodup := by
  have unrepeated : Config.firstRepeated [] config.handles = none ↔ config.handles.Nodup := by
    rw [Config.firstRepeated_eq_none]
    simp
  rw [← unrepeated, Config.validate]
  by_cases small : config.pipeCapacity = 0
  · simp [small]
  · by_cases unpaced : config.defaultPeriod ≤ 0
    · rw [if_neg small, if_pos unpaced]
      simp [Int.not_lt.2 unpaced]
    · rw [if_neg small, if_neg unpaced]
      cases Config.firstRepeated [] config.handles with
      | some handle => simp
      | none => simp [Nat.pos_of_ne_zero small, Int.not_le.1 unpaced]

/-- A text that is accepted reads as the configuration, which is valid. -/
theorem ofText_ok {text : String} {config : Config} (accepted : Config.ofText text = .ok config) :
    Json.Reader.whole Config.schema.read text = .ok config ∧ config.validate = .ok () := by
  rw [Config.ofText] at accepted
  split at accepted
  · cases accepted
  · rename_i read
    obtain ⟨⟨⟩, valid, same⟩ := bind_ok accepted
    cases same
    exact ⟨read, valid⟩

theorem registerAll_ok {P : Hub → Prop} {nodes : List Node}
    (registered : ∀ hub node, P hub → node ∈ nodes → P (hub.perform 0 (.register node)).value.1)
    {hub logged : Logged Hub} (before : P hub.value) (accepted : registerAll nodes hub = .ok logged) :
    P logged.value := by
  induction nodes generalizing hub with
  | nil => cases accepted; exact before
  | cons node rest ih =>
      obtain ⟨first, register, others⟩ := bind_ok accepted
      have next := registered hub.value node before List.mem_cons_self
      rw [perform, settle_ok register] at next
      refine ih ?_ ?_ others
      · exact fun hub later holds within => registered hub later holds (List.mem_cons_of_mem _ within)
      · exact next

/-- The hub of a configuration is what its registrations make of one without sensors. -/
theorem ofConfig_ok {config : Config} {logged : Logged Hub} (valid : ofConfig config = .ok logged)
    {P : Hub → Prop}
    (empty : 0 < config.defaultPeriod → P (bare config.pipeCapacity config.defaultPeriod))
    (provided : ∀ hub provider, P hub → P (hub.perform 0 (.registerProvider provider)).value.1)
    (registered : ∀ hub entry, P hub →
      P (hub.perform 0 (.register (configured config entry))).value.1) :
    P logged.value := by
  obtain ⟨⟨⟩, positive, valid⟩ := bind_ok valid
  obtain ⟨provision, provide, valid⟩ := bind_ok valid
  obtain ⟨registration, register, valid⟩ := bind_ok valid
  cases valid
  have first := provided _ (config.fusion.descriptor config.vendor) (empty (validate_iff.1 positive).2.1)
  have provide : (bare config.pipeCapacity config.defaultPeriod).registerProvider
      (config.fusion.descriptor config.vendor) = .ok provision := provide
  rw [perform, settle_ok provide] at first
  show P registration.value
  refine registerAll_ok ?_ first register
  intro hub node holds listed
  obtain ⟨entry, -, rfl⟩ := List.mem_map.1 listed
  exact registered hub entry holds

section Induction

variable {P : Hub → Prop} (empty : ∀ capacity period, 0 < period → P (bare capacity period))

include empty

/-- What holds of a hub without sensors and is kept by every command holds of
every hub that is made. -/
theorem Made.induct
    (performed : ∀ (hub : Hub) now command, P hub → command.Fresh → P (hub.perform now command).value.1)
    {hub : Hub} (made : hub.Made) : P hub := by
  cases made with
  | empty capacity => exact empty capacity usualPeriod (by decide)
  | configured valid =>
      refine ofConfig_ok valid (empty _ _) ?_ ?_
      · exact fun hub provider holds => performed hub 0 _ holds trivial
      · exact fun hub entry holds => performed hub 0 _ holds (configured_fresh _ entry)

/-- It then holds of every reachable hub. -/
theorem Reachable.induct
    (performed : ∀ (hub : Hub) now command, P hub → command.Fresh → P (hub.perform now command).value.1)
    {hub : Hub} (reachable : hub.Reachable) : P hub := by
  induction reachable with
  | made made => exact made.induct empty performed
  | performed _ now fresh ih => exact performed _ now _ ih fresh

/-- It holds after any run, of nodes that were used before as well, if commands
keep it whatever the node that they register. -/
theorem Made.run_induct
    (performed : ∀ (hub : Hub) now command, P hub → P (hub.perform now command).value.1)
    {start : Hub} (made : start.Made) (commands : List (Int × Command)) : P (start.run commands) := by
  have first : P start := made.induct empty fun hub now command holds _ => performed hub now command holds
  induction commands using List.reverseRecOn with
  | nil => exact first
  | append_singleton before entry ih =>
      rw [run_concat]
      exact performed _ entry.1 entry.2 ih

end Induction

/-! ## Sound hubs -/

end Hub

/-- A node's event carries its handle, and no node is enabled without a period. -/
structure Node.Sound (node : Node) : Prop where
  sensor : node.event.sensor = node.handle
  content : node.event.content = .data
  period : 0 ≤ node.period
  paced : node.isEnabled = true → 0 < node.period

/-- A pipe whose reader is there, with no more events than it takes. -/
structure Pipe.Sound (pipe : Pipe) : Prop where
  reading : pipe.readEnds ≠ 0
  room : pipe.queue.length ≤ pipe.capacity

/-- What holds of every reachable hub. -/
structure Hub.Sound (hub : Hub) : Prop where
  distinct : (hub.descriptors.map Descriptor.handle).Nodup
  period : 0 < hub.defaultPeriod
  nodes : ∀ node ∈ hub.nodes, node.Sound
  pipe : hub.pipe.Sound

namespace Node

theorem Fresh.sound {node : Node} (fresh : node.Fresh) : node.Sound := by
  obtain ⟨shape, event⟩ := fresh.event
  have off : node.isEnabled = false := by rw [isEnabled, fresh.session]; rfl
  have unset : node.period = 0 := by rw [period, fresh.gate]
  exact ⟨by rw [event]; rfl, by rw [event]; rfl, by omega, by simp [off]⟩

theorem Step.sound {node after : Node} (step : node.Step after) (sound : node.Sound) :
    after.Sound := by
  obtain ⟨sensor, content, period, paced⟩ := sound
  cases step with
  | resolved provider => exact ⟨sensor, content, period, paced⟩
  | @paced requested logged set =>
      obtain ⟨positive, value⟩ := setPeriod_ok set
      have least := node.descriptor.clampPeriod_pos positive
      rw [value]
      exact ⟨sensor, content, Int.le_of_lt least, fun _ => least⟩
  | switched on now ready =>
      rw [switch_value]
      split
      · exact ⟨sensor, content, period, paced⟩
      · refine ⟨sensor, content, period, ?_⟩
        intro enabled
        cases on with
        | false => cases enabled
        | true =>
            have set := ready rfl
            show 0 < node.period
            omega
  | ran outlet sample =>
      obtain ⟨output, stats, framed⟩ := cycle_frame node outlet sample
      refine ⟨by rw [framed]; exact sensor, by rw [framed]; exact content, ?_, ?_⟩
      · rwa [cycle_period]
      · rwa [cycle_period, cycle_isEnabled]

theorem Steps.sound {node after : Node} (steps : node.Steps after) (sound : node.Sound) :
    after.Sound := by
  induction steps with
  | refl => exact sound
  | tail _ step ih => exact step.sound ih

end Node

theorem Descriptor.insertByHandle_perm (d : Descriptor) (list : List Descriptor) :
    (d.insertByHandle list).Perm (d :: list) := by
  induction list with
  | nil => exact .refl _
  | cons first rest ih =>
      rw [insertByHandle]
      split
      · exact .refl _
      · exact (ih.cons first).trans (.swap d first rest)

/-- The provider of a new kind is found for that kind, and no other is concerned. -/
theorem Descriptor.find?_insertByHandle {provider : Descriptor} {providers : List Descriptor}
    (first : providers.find? (·.kind == provider.kind) = none) (kind : SensorKind) :
    (provider.insertByHandle providers).find? (·.kind == kind) =
      if provider.kind = kind then some provider else providers.find? (·.kind == kind) := by
  induction providers with
  | nil => by_cases same : provider.kind = kind <;> simp [insertByHandle, same]
  | cons other rest ih =>
      have apart : other.kind ≠ provider.kind := by
        simpa using List.find?_eq_none.1 first other List.mem_cons_self
      have others : rest.find? (·.kind == provider.kind) = none :=
        List.find?_eq_none.2 fun later within =>
          List.find?_eq_none.1 first later (List.mem_cons_of_mem _ within)
      rw [insertByHandle]
      by_cases same : provider.kind = kind
      · have foreign : other.kind ≠ kind := same ▸ apart
        split
        · simp [same]
        · rw [List.find?_cons_of_neg (by simpa using foreign), ih others, if_pos same]
      · split
        · rw [List.find?_cons_of_neg (by simpa using same)]
        · simp only [List.find?_cons, ih others, if_neg same]

theorem Pipe.write_ok {pipe after : Pipe} {event : Event} (written : pipe.write event = .ok after) :
    pipe.readEnds ≠ 0 ∧ pipe.queue.length < pipe.capacity ∧
      after = { pipe with queue := pipe.queue ++ [event] } := by
  unfold write at written
  split at written
  · cases written
  · split at written
    · cases written
    · cases written
      exact ⟨by assumption, by omega, rfl⟩

/-- A pipe with a reader refuses an event only for want of room. -/
theorem Pipe.write_error {pipe : Pipe} {event : Event} {fault : Fault}
    (reading : pipe.readEnds ≠ 0) (refused : pipe.write event = .error fault) :
    fault = .pipeFull := by
  rw [write, if_neg reading] at refused
  split at refused
  · cases refused
    rfl
  · cases refused

/-- A pipe that takes an event is sound afterwards. -/
theorem Pipe.sound_of_write {pipe after : Pipe} {event : Event}
    (written : pipe.write event = .ok after) : after.Sound := by
  obtain ⟨reading, room, rfl⟩ := write_ok written
  refine ⟨reading, ?_⟩
  rw [List.length_append, List.length_singleton]
  exact room

theorem Pipe.Sound.drop {pipe : Pipe} (sound : pipe.Sound) (max : Nat) :
    Pipe.Sound { pipe with queue := pipe.queue.drop max } := by
  refine ⟨sound.reading, ?_⟩
  have room := sound.room
  rw [List.length_drop]
  show pipe.queue.length - max ≤ pipe.capacity
  omega

namespace Hub

/-- Turns keep what every accepted event keeps of the outlet. -/
theorem takeTurns_outlet {σ : Type} [Outlet σ] {P : σ → Prop}
    (sends : ∀ outlet event sent, P outlet → Outlet.send outlet event = .ok sent → P sent)
    (turns : List Turn) (state : List Node × σ) (before : P state.2) :
    P (takeTurns turns state).value.2 := by
  induction turns generalizing state with
  | nil => exact before
  | cons turn rest ih =>
      apply ih
      cases found : state.1[turn.place]? with
      | none => rwa [takeTurn_none found, Logged.value_pure]
      | some node =>
          rw [takeTurn_some found, Logged.value_bind, Logged.value_pure]
          rcases node.cycle_outlet state.2 turn.sample with same | sent
          · rwa [same]
          · exact sends _ _ _ before sent

theorem handles_descriptors (hub : Hub) : hub.descriptors.map Descriptor.handle =
    hub.providers.map Descriptor.handle ++ hub.nodes.map Node.handle := by
  rw [descriptors, List.map_append, List.map_map]
  rfl

theorem nodes_distinct {hub : Hub} (distinct : (hub.descriptors.map Descriptor.handle).Nodup) :
    (hub.nodes.map Node.handle).Nodup :=
  (List.nodup_append.1 (hub.handles_descriptors ▸ distinct)).2.1

theorem Sound.handles {hub : Hub} (sound : hub.Sound) : (hub.nodes.map Node.handle).Nodup :=
  nodes_distinct sound.distinct

/-- The handles in use are those of the listed sensors. -/
theorem usesHandle_eq_false {hub : Hub} {handle : Int} :
    hub.usesHandle handle = false ↔ handle ∉ hub.descriptors.map Descriptor.handle := by
  rw [handles_descriptors, usesHandle, Bool.or_eq_false_iff, List.mem_append, not_or, And.comm]
  simp [List.any_eq_false]

theorem bare_sound (capacity : Nat) {period : Int} (positive : 0 < period) :
    (bare capacity period).Sound where
  distinct := List.nodup_nil
  period := positive
  nodes := by simp [bare, Hub.new]
  pipe := ⟨Nat.one_ne_zero, Nat.zero_le _⟩

namespace Effect

variable {hub after : Hub} {now : Int} {command : Command} {reply : Reply}

theorem providers (effect : hub.Effect now command after reply) :
    after.providers = hub.providers ∨
      ∃ provider, command = .registerProvider provider ∧ hub.usesHandle provider.handle = false ∧
        hub.provider? provider.kind = none ∧
        after.providers = provider.insertByHandle hub.providers := by
  cases effect with
  | provided first unused => exact .inr ⟨_, rfl, unused, first, rfl⟩
  | refused | registered | switched | paced | flushed | delivered | polled => exact .inl rfl

theorem defaultPeriod (effect : hub.Effect now command after reply) :
    after.defaultPeriod = hub.defaultPeriod := by
  cases effect <;> rfl

/-- What writes and reads keep of a pipe, every command keeps of it. -/
theorem pipe {P : Pipe → Prop}
    (writes : ∀ pipe event after, P pipe → Pipe.write pipe event = .ok after → P after)
    (reads : ∀ pipe max, P pipe → P { pipe with queue := pipe.queue.drop max })
    (effect : hub.Effect now command after reply) (before : P hub.pipe) : P after.pipe := by
  cases effect with
  | refused | registered | provided | switched | paced => exact before
  | flushed found enabled written => exact writes _ _ _ before written
  | delivered source sample =>
      obtain ⟨turns, delivered⟩ := hub.deliver_some_turns source sample
      rw [delivered]
      exact takeTurns_outlet writes turns (hub.nodes, hub.pipe) before
  | polled max => exact reads _ max before

theorem capacity (effect : hub.Effect now command after reply) :
    after.pipe.capacity = hub.pipe.capacity := by
  refine effect.pipe (P := fun pipe => pipe.capacity = hub.pipe.capacity) ?_ ?_ rfl
  · intro pipe event after same written
    obtain ⟨-, -, rfl⟩ := Pipe.write_ok written
    exact same
  · exact fun pipe max same => same

/-- Handles stay distinct, because a new sensor may not use one that is there. -/
theorem distinct (effect : hub.Effect now command after reply)
    (distinct : (hub.descriptors.map Descriptor.handle).Nodup) :
    (after.descriptors.map Descriptor.handle).Nodup := by
  have grown : ∀ handle, hub.usesHandle handle = false →
      (handle :: (hub.providers.map Descriptor.handle ++ hub.nodes.map Node.handle)).Nodup := by
    intro handle unused
    rw [← handles_descriptors]
    exact List.nodup_cons.2 ⟨usesHandle_eq_false.1 unused, distinct⟩
  obtain ⟨added, moves, new⟩ := effect.moves (nodes_distinct distinct)
  rw [handles_descriptors] at distinct ⊢
  rw [moves.handles, ← List.append_assoc]
  rcases effect.providers with same | ⟨provider, rfl, unused, -, inserted⟩
  · rw [same]
    cases added with
    | none => rwa [Option.toList_none, List.map_nil, List.append_nil]
    | some node =>
        obtain ⟨built, rfl, steps, unused⟩ := new node rfl
        rw [Option.toList_some, List.map_singleton, steps.handle]
        exact (List.perm_append_singleton _ _).nodup_iff.2 (grown _ unused)
  · cases added with
    | none =>
        rw [inserted, Option.toList_none, List.map_nil, List.append_nil]
        have shuffled := ((provider.insertByHandle_perm hub.providers).map Descriptor.handle).append_right
          (hub.nodes.map Node.handle)
        exact shuffled.nodup_iff.2 (grown _ unused)
    | some node =>
        obtain ⟨built, ⟨⟩, -⟩ := new node rfl

theorem sound (effect : hub.Effect now command after reply) (sound : hub.Sound)
    (fresh : command.Fresh) : after.Sound where
  distinct := effect.distinct sound.distinct
  period := effect.defaultPeriod ▸ sound.period
  nodes := by
    obtain ⟨added, moves, new⟩ := effect.moves sound.handles
    intro node listed
    rcases moves.node listed with ⟨old, known, steps⟩ | newcomer
    · exact steps.sound (sound.nodes old known)
    · obtain ⟨built, rfl, steps, -⟩ := new node newcomer
      exact steps.sound (Node.Fresh.sound fresh)
  pipe := by
    refine effect.pipe (fun _ _ _ _ written => Pipe.sound_of_write written) ?_ sound.pipe
    exact fun pipe max sound => sound.drop max

end Effect

/-- **Every reachable hub is sound.** -/
theorem Reachable.sound {hub : Hub} (reachable : hub.Reachable) : hub.Sound :=
  reachable.induct (fun capacity _ positive => bare_sound capacity positive)
    fun hub now command sound fresh => (hub.perform_effect now command).sound sound fresh

end Hub

end FusionSensors
