/-
# FusionSensors.Proofs.Configured -- the hub of a valid configuration

A valid configuration has distinct handles, so its provider and its leaves are
independent and their registrations are accepted (`ofConfig_accepts`): the hub
holds the fused provider and one leaf for each entry, in order, each of which
has met that provider. There is a hub of no other configuration; `ofConfig_exact`
says what the valid ones are and what their hubs hold.

What the entry of a kind asks for is a table of numbers here (`Leaf.traits`),
apart from the definitions that build the node, and `LeafEntry.report` is the
event that such a node makes of a sample (`installed_receive`).
-/
import FusionSensors.Proofs.Registration

namespace FusionSensors

set_option autoImplicit false

/-- The fused sample is no leaf's own output. -/
theorem Leaf.kind_ne (leaf : Leaf) : leaf.kind ≠ .accelGyroFusion := by cases leaf <;> decide

/-! ## Sensors by kind -/

/-- What is settled of a sensor by its kind in the configuration. -/
structure Leaf.Traits where
  kind : SensorKind
  /-- the number of the kind -/
  id : Int
  shape : Shape
  /-- the shape's name in texts -/
  shapeName : String
  /-- where its values begin in a fused sample -/
  start : Nat
  /-- and how many they are -/
  size : Nat
  maxRange : Single

/-- The three kinds. The orientation is values 0 to 3 of a fused sample, within 1.0;
gravity is values 4 to 6 and linear acceleration values 7 to 9, both within 19.6133. -/
def Leaf.traits : Leaf → Traits
  | .gameRotationVector =>
    { kind := .gameRotationVector, id := 15, shape := .axis4, shapeName := "Axis4",
      start := 0, size := 4, maxRange := ⟨0x3F800000⟩ }
  | .gravity =>
    { kind := .gravity, id := 9, shape := .axis3, shapeName := "Axis3",
      start := 4, size := 3, maxRange := ⟨0x419CE80A⟩ }
  | .linearAcceleration =>
    { kind := .linearAcceleration, id := 10, shape := .axis3, shapeName := "Axis3",
      start := 7, size := 3, maxRange := ⟨0x419CE80A⟩ }

-- the definitions of the node are made of the same numbers

section Traits

variable (leaf : Leaf)

theorem Leaf.kind_eq : leaf.kind = leaf.traits.kind := by cases leaf <;> rfl

theorem Leaf.id_eq : leaf.kind.id = leaf.traits.id := by cases leaf <;> rfl

theorem Leaf.shape_eq : leaf.shape = leaf.traits.shape := by cases leaf <;> rfl

theorem Leaf.shapeName_eq : leaf.traits.shape.name = leaf.traits.shapeName := by cases leaf <;> rfl

theorem Leaf.size_eq : leaf.shape.size = leaf.traits.size := by cases leaf <;> rfl

theorem Leaf.slot_eq : leaf.slot = ⟨leaf.traits.start, leaf.traits.size⟩ := by cases leaf <;> rfl

theorem Leaf.maxRange_eq : leaf.maxRange = leaf.traits.maxRange := by cases leaf <;> rfl

end Traits

/-- The values that a sensor reports of a sample: its own, and zeros behind. -/
def Leaf.share (leaf : Leaf) (sample : Sample) : Payload where
  values := (sample.values.values.drop leaf.traits.start).take leaf.traits.size ++
    List.replicate (16 - leaf.traits.size) ⟨0⟩
  length_values := by cases leaf <;> simp [traits, sample.values.length_values]

/-- The event that a sensor makes of a sample. -/
def LeafEntry.report (entry : LeafEntry) (sample : Sample) : Event where
  sensor := entry.handle
  kindId := entry.leaf.traits.id
  timestamp := sample.timestamp
  data := entry.leaf.share sample
  shape := entry.leaf.traits.shape
  content := .data

namespace Hub

/-! ## The registrations of a configuration -/

/-- The leaf of an entry as it ends, having met the fused provider. -/
def installed (config : Config) (entry : LeafEntry) : Node :=
  ((configured config entry).resolve (config.fusion.descriptor config.vendor)).value

/-- It makes of a sample the report of its entry. -/
theorem installed_receive (config : Config) (entry : LeafEntry) (sample : Sample) :
    ((installed config entry).receive sample).event = entry.report sample := by
  have full : ((sample.values.values.drop entry.leaf.traits.start).take
      entry.leaf.traits.size).length = entry.leaf.traits.size := by
    rw [List.length_take, List.length_drop, sample.values.length_values]
    cases entry.leaf <;> rfl
  have few : entry.leaf.traits.size ≤ 16 := by cases entry.leaf <;> decide
  have data : ((installed config entry).receive sample).event.data = entry.leaf.share sample := by
    show Payload.ofList ((sample.values.slice entry.leaf.slot.start entry.leaf.shape.size).take
      entry.leaf.shape.size) = _
    apply Payload.ext
    rw [Payload.slice, entry.leaf.size_eq, entry.leaf.slot_eq, List.take_take, Nat.min_self,
      Payload.values_ofList (full.symm ▸ few), full]
    rfl
  rw [LeafEntry.report, ← data, ← entry.leaf.id_eq, ← entry.leaf.shape_eq]
  rfl

/-- The registrations of a configuration, in order. -/
def installation (config : Config) : List (Int × Command) :=
  (0, .registerProvider (config.fusion.descriptor config.vendor)) ::
    (config.sensors.map (configured config)).map fun node => (0, .register node)

theorem nodesOf_installation (config : Config) :
    nodesOf (installation config) = config.sensors.map (configured config) := by
  simp [nodesOf, installation, List.filterMap_map]

theorem providersOf_installation (config : Config) :
    providersOf (installation config) = [config.fusion.descriptor config.vendor] := by
  simp [providersOf, installation, List.filterMap_map]

theorem installation_adds (config : Config) : ∀ entry ∈ installation config, entry.2.Adds := by
  simp [installation, Command.Adds]

/-- The sensors of a valid configuration are independent: leaves are driven by
the fused provider only. -/
theorem configured_independent {config : Config} (valid : config.validate = .ok ()) :
    Independent (config.sensors.map (configured config))
      [config.fusion.descriptor config.vendor] where
  handles := by
    have handles : (config.sensors.map (configured config)).map Node.handle =
        config.sensors.map LeafEntry.handle := by
      rw [List.map_map]
      rfl
    rw [handles]
    exact (validate_iff.1 valid).2.2
  kinds := List.nodup_singleton _
  triggered := by
    intro node listed
    obtain ⟨entry, -, rfl⟩ := List.mem_map.1 listed
    exact nofun
  selfless := by
    intro node listed
    obtain ⟨entry, -, rfl⟩ := List.mem_map.1 listed
    have own : entry.leaf.kind ∉ [SensorKind.accelGyroFusion] := by
      simpa using entry.leaf.kind_ne
    exact own
  undriven := by
    intro node listed other within same
    obtain ⟨entry, -, rfl⟩ := List.mem_map.1 listed
    obtain ⟨other, -, rfl⟩ := List.mem_map.1 within
    exact other.leaf.kind_ne (Option.some.inj same).symm

/-! ## Building the hub -/

/-- A registration that is answered was accepted. -/
theorem settle_done {hub : Hub} {outcome : Except Fault (Logged Hub)}
    (done : (hub.settle outcome (·, .done)).value.2 = .done) :
    ∃ logged, outcome = .ok logged ∧ logged.value = (hub.settle outcome (·, .done)).value.1 := by
  cases outcome with
  | error fault => cases done
  | ok logged => exact ⟨logged, rfl, rfl⟩

/-- Registering the nodes of a list one after the other is a run of registrations. -/
theorem registerAll_accepts {nodes : List Node} {hub : Logged Hub}
    (done : ∀ reply ∈ hub.value.replies (nodes.map fun node => (0, .register node)), reply = .done) :
    ∃ logged, registerAll nodes hub = .ok logged ∧
      logged.value = hub.value.run (nodes.map fun node => (0, .register node)) := by
  induction nodes generalizing hub with
  | nil => exact ⟨hub, rfl, rfl⟩
  | cons node rest ih =>
      obtain ⟨first, later⟩ := List.forall_mem_cons.1 done
      obtain ⟨registered, accepted, value⟩ := settle_done first
      have step : (hub >>= fun _ => registered).value =
          (hub.value.perform 0 (.register node)).value.1 := value
      rw [← step] at later
      obtain ⟨logged, others, last⟩ := ih later
      refine ⟨logged, ?_, ?_⟩
      · rw [registerAll, accepted]
        exact others
      · rw [last, step]
        rfl

/-- **A valid configuration makes a hub** of its provider and its leaves. -/
theorem ofConfig_accepts {config : Config} (valid : config.validate = .ok ()) :
    ∃ logged, ofConfig config = .ok logged ∧
      logged.value = (bare config.pipeCapacity config.defaultPeriod).run (installation config) ∧
      logged.value.nodes = config.sensors.map (installed config) ∧
      logged.value.providers = [config.fusion.descriptor config.vendor] := by
  have independent := configured_independent valid
  rw [← nodesOf_installation, ← providersOf_installation] at independent
  obtain ⟨done, holds⟩ := (Holds.bare config.pipeCapacity config.defaultPeriod).run
    (installation_adds config) independent
  obtain ⟨first, later⟩ := List.forall_mem_cons.1 done
  obtain ⟨provided, accepted, value⟩ := settle_done first
  have value : provided.value = ((bare config.pipeCapacity config.defaultPeriod).perform 0
      (.registerProvider (config.fusion.descriptor config.vendor))).value.1 := value
  rw [← value] at later
  obtain ⟨registered, others, last⟩ := registerAll_accepts later
  have only : registered.value.providers = [config.fusion.descriptor config.vendor] := by
    rw [last, value]
    rw [providersOf_installation] at holds
    exact List.perm_singleton.1 holds.providers
  have run : registered.value =
      (bare config.pipeCapacity config.defaultPeriod).run (installation config) := by
    rw [last, value]
    rfl
  refine ⟨do
      let hub ← registered
      Logged.note (.hubReady hub.nodes.length config.pipeCapacity)
      return hub, ?_, run, ?_, only⟩
  · have accepted : ({ Hub.new config.pipeCapacity with defaultPeriod := config.defaultPeriod } :
        Hub).registerProvider (config.fusion.descriptor config.vendor) = .ok provided := accepted
    simp only [ofConfig, valid, bind, Except.bind, accepted, others]
    rfl
  · show registered.value.nodes = _
    rw [run, holds.nodes, ← run, only, List.nil_append, nodesOf_installation, List.map_map]
    rfl

/-- A hub that is made is that of a valid configuration. -/
theorem ofConfig_built {config : Config} {logged : Logged Hub}
    (built : ofConfig config = .ok logged) : config.validate = .ok () ∧
      logged.value = (bare config.pipeCapacity config.defaultPeriod).run (installation config) ∧
      logged.value.nodes = config.sensors.map (installed config) ∧
      logged.value.providers = [config.fusion.descriptor config.vendor] := by
  obtain ⟨⟨⟩, valid, -⟩ := bind_ok built
  obtain ⟨other, same, made⟩ := ofConfig_accepts valid
  obtain rfl : other = logged := Except.ok.inj (same.symm.trans built)
  exact ⟨valid, made⟩

/-! ## Exactly the valid configurations -/

/-- A registration leaves the pipe alone. -/
theorem Effect.adds {hub after : Hub} {now : Int} {command : Command} {reply : Reply}
    (effect : hub.Effect now command after reply) (adds : command.Adds) : after.pipe = hub.pipe := by
  cases effect with
  | refused | registered | provided => rfl
  | switched | paced | flushed | delivered | polled => exact adds.elim

theorem run_adds {hub : Hub} {order : List (Int × Command)} (adding : ∀ entry ∈ order, entry.2.Adds) :
    (hub.run order).pipe = hub.pipe ∧ (hub.run order).defaultPeriod = hub.defaultPeriod := by
  induction order generalizing hub with
  | nil => exact ⟨rfl, rfl⟩
  | cons entry rest ih =>
      obtain ⟨first, later⟩ := List.forall_mem_cons.1 adding
      have effect := hub.perform_effect entry.1 entry.2
      exact ⟨(ih later).1.trans (effect.adds first), (ih later).2.trans effect.defaultPeriod⟩

/-- A node is what an entry of a configuration asks for. -/
structure Represents (config : Config) (entry : LeafEntry) (node : Node) : Prop where
  fresh : node.Fresh
  handle : node.handle = entry.handle
  name : node.descriptor.name = entry.name
  kind : node.kind = entry.leaf.traits.kind
  kindId : node.event.kindId = entry.leaf.traits.id
  vendor : node.descriptor.vendor = config.vendor
  warmup : node.warmup = config.warmup
  resolution : node.descriptor.resolution = config.fusion.resolution
  minDelay : node.descriptor.minDelay = config.fusion.minDelay
  maxDelay : node.descriptor.maxDelay = config.fusion.maxDelay
  maxRange : node.descriptor.maxRange = entry.leaf.traits.maxRange
  start : node.start = entry.leaf.traits.start
  shape : node.event.shape = entry.leaf.traits.shape
  size : node.event.shape.size = entry.leaf.traits.size
  trigger : node.triggerKind = some .accelGyroFusion

/-- A hub is what a configuration asks for. -/
structure Realizes (config : Config) (hub : Hub) : Prop where
  providers : hub.providers =
    [{ name := config.fusion.name
       vendor := config.vendor
       version := 1
       handle := config.fusion.handle
       kind := .accelGyroFusion
       dotted := "swsensor.accel_gyro_fusion_6x"
       maxRange := config.fusion.maxRange
       resolution := config.fusion.resolution
       power := config.fusion.power
       minDelay := config.fusion.minDelay
       maxDelay := config.fusion.maxDelay
       fifoReserved := 0
       fifoMax := 0
       wakeUp := false
       mode := .continuous }]
  nodes : List.Forall₂ (Represents config) config.sensors hub.nodes
  pipe : hub.pipe = { capacity := config.pipeCapacity, queue := [], writeEnds := 1, readEnds := 1 }
  defaultPeriod : hub.defaultPeriod = config.defaultPeriod

theorem installed_represents (config : Config) (entry : LeafEntry) :
    Represents config entry (installed config entry) where
  fresh := ⟨⟨entry.leaf.shape, rfl⟩, rfl, rfl, rfl, rfl⟩
  handle := rfl
  name := rfl
  kind := entry.leaf.kind_eq
  kindId := entry.leaf.id_eq
  vendor := rfl
  warmup := rfl
  resolution := rfl
  minDelay := rfl
  maxDelay := rfl
  maxRange := entry.leaf.maxRange_eq
  start := congrArg Slot.start entry.leaf.slot_eq
  shape := entry.leaf.shape_eq
  size := entry.leaf.size_eq
  trigger := rfl

/-- **There is a hub of exactly the valid configurations**, and it is what they
ask for. -/
theorem ofConfig_exact (config : Config) :
    (config.validate = .ok () ↔
      0 < config.pipeCapacity ∧ 0 < config.defaultPeriod ∧
        (config.fusion.handle :: config.sensors.map LeafEntry.handle).Nodup) ∧
    ((∃ logged, ofConfig config = .ok logged) ↔ config.validate = .ok ()) ∧
    ∀ logged, ofConfig config = .ok logged → Realizes config logged.value := by
  refine ⟨validate_iff, ⟨fun ⟨logged, built⟩ => (ofConfig_built built).1, ?_⟩, ?_⟩
  · intro valid
    obtain ⟨logged, built, -⟩ := ofConfig_accepts valid
    exact ⟨logged, built⟩
  · intro logged built
    obtain ⟨-, run, nodes, providers⟩ := ofConfig_built built
    constructor
    case providers => exact providers
    case nodes =>
        rw [nodes, List.forall₂_map_right_iff]
        exact List.forall₂_same.2 fun entry _ => installed_represents config entry
    case pipe =>
        rw [run, (run_adds (installation_adds config)).1]
        rfl
    case defaultPeriod =>
        rw [run, (run_adds (installation_adds config)).2]
        rfl

end Hub

end FusionSensors
