/-
# FusionSensors.Proofs.Slots -- what is put into a slot comes out of its sensor

A fused sample is put together by setting its slots, in any order and as often
as one likes, and each leaf reports one slot of it. Main statement,
`shows_settings`: after a cycle a leaf shows the values that its slot was set to
last, bit for bit, or those the sample began with if it was never set. This
holds whatever was done with the node before, since a cycle overwrites all
values that the node's shape has in use.

The slots lie apart (`Slot.apart`), so that setting one of them does not show in
another (`read_set`). Of a node it is enough to know where it reads, how many
values, and that it forwards (`Leaf.Owns`); nothing that is asked of a node
changes this.
-/
import FusionSensors.Proofs.Attempts
import FusionSensors.Proofs.Origin

namespace FusionSensors

set_option autoImplicit false

/-! ## Slots of a payload -/

namespace Payload

/-- What was written to a slot is what is read from it. -/
theorem slice_write (p : Payload) {start : Nat} {values : List Single}
    (fits : start + values.length ≤ 16) :
    (p.write start values).slice start values.length = values := by
  apply List.ext_getElem?
  intro i
  rw [slice, List.getElem?_take, List.getElem?_drop, values_write]
  by_cases within : i < values.length
  · have inside : start + i < p.values.length := by rw [p.length_values]; omega
    simp [within, List.getElem?_eq_getElem inside]
  · simp [within]

/-- A write to another place is not seen. -/
theorem slice_write_apart (p : Payload) {start count other : Nat} {values : List Single}
    (apart : start + count ≤ other ∨ other + values.length ≤ start) :
    (p.write other values).slice start count = p.slice start count := by
  apply List.ext_getElem?
  intro i
  rw [slice, slice, List.getElem?_take, List.getElem?_take]
  by_cases within : i < count
  · rw [if_pos within, if_pos within, List.getElem?_drop, List.getElem?_drop, values_write]
    rcases apart with before | behind
    · simp [show start + i < other by omega]
    · simp [show ¬ start + i < other by omega, show values.length ≤ start + i - other by omega]
  · rw [if_neg within, if_neg within]

end Payload

namespace Slot

/-- Two slots that share no place. -/
def Apart (slot other : Slot) : Prop :=
  slot.start + slot.size ≤ other.start ∨ other.start + other.size ≤ slot.start

/-- The values of a sample in a slot. -/
def read (slot : Slot) (sample : Sample) : List Single :=
  sample.values.slice slot.start slot.size

theorem read_fill {slot : Slot} {values : List Single} (full : values.length = slot.size)
    (within : slot.start + slot.size ≤ 16) (sample : Sample) :
    slot.read (sample.fill slot values) = values := by
  show (sample.values.write slot.start (values.take slot.size)).slice slot.start slot.size = values
  rw [← full, List.take_length]
  exact sample.values.slice_write (by omega)

theorem read_fill_apart {slot other : Slot} (apart : slot.Apart other) (sample : Sample)
    (values : List Single) : slot.read (sample.fill other values) = slot.read sample := by
  refine sample.values.slice_write_apart (apart.imp id fun behind => ?_)
  have most : (values.take other.size).length ≤ other.size := List.length_take_le ..
  omega

end Slot

/-! ## Setting slots -/

/-- One way to set a slot of a fused sample. -/
inductive Sample.Setting where
  | quaternion (x y z w : Single)
  | gravity (x y z : Single)
  | linearAcceleration (x y z : Single)
  deriving DecidableEq, Repr

namespace Sample

def set (sample : Sample) : Setting → Sample
  | .quaternion x y z w => sample.withQuaternion x y z w
  | .gravity x y z => sample.withGravity x y z
  | .linearAcceleration x y z => sample.withLinearAcceleration x y z

/-- A sample after some settings, one after the other. -/
def setAll (sample : Sample) (settings : List Setting) : Sample := settings.foldl set sample

/-- A sample keeps its time and its period. -/
theorem setAll_times (sample : Sample) (settings : List Setting) :
    (sample.setAll settings).timestamp = sample.timestamp ∧
      (sample.setAll settings).period = sample.period := by
  induction settings generalizing sample with
  | nil => exact ⟨rfl, rfl⟩
  | cons setting rest ih =>
      have same : (sample.set setting).timestamp = sample.timestamp ∧
          (sample.set setting).period = sample.period := by
        cases setting <;> exact ⟨rfl, rfl⟩
      have later := ih (sample.set setting)
      rw [same.1, same.2] at later
      exact later

end Sample

/-- A node shows some values in its event and, with zeros behind, in its output. -/
structure Node.Shows (node : Node) (values : List Single) (time producer : Int) : Prop where
  event : node.event.values = values
  timestamp : node.event.timestamp = time
  output : ∃ output, node.output = some output ∧ output.timestamp = time ∧
    output.period = producer ∧
    output.values.values = values ++ List.replicate (16 - values.length) .zero

namespace Leaf

/-- The values of a setting, if it is of the leaf's kind. -/
def matching : Leaf → Sample.Setting → Option (List Single)
  | .gameRotationVector, .quaternion x y z w => some [x, y, z, w]
  | .gravity, .gravity x y z => some [x, y, z]
  | .linearAcceleration, .linearAcceleration x y z => some [x, y, z]
  | _, _ => none

/-- The values that were set last, or else those that the sample began with. -/
def lastSet (leaf : Leaf) (base : Sample) (settings : List Sample.Setting) : List Single :=
  (settings.filterMap leaf.matching).getLast?.getD (leaf.slot.read base)

theorem slot_within (leaf : Leaf) : leaf.slot.start + leaf.slot.size ≤ 16 := by
  cases leaf <;> decide

theorem slots_apart {leaf other : Leaf} (different : leaf ≠ other) :
    leaf.slot.Apart other.slot := by
  unfold Slot.Apart
  cases leaf <;> cases other <;> first | contradiction | decide

/-- Every setting fills the slot of one leaf with its values. -/
theorem set_fills (sample : Sample) (setting : Sample.Setting) :
    ∃ (leaf : Leaf) (values : List Single), leaf.matching setting = some values ∧
      values.length = leaf.slot.size ∧ (∀ other, other ≠ leaf → other.matching setting = none) ∧
      sample.set setting = sample.fill leaf.slot values := by
  cases setting with
  | quaternion x y z w =>
      refine ⟨.gameRotationVector, _, rfl, rfl, fun other different => ?_, rfl⟩
      cases other <;> first | contradiction | rfl
  | gravity x y z =>
      refine ⟨.gravity, _, rfl, rfl, fun other different => ?_, rfl⟩
      cases other <;> first | contradiction | rfl
  | linearAcceleration x y z =>
      refine ⟨.linearAcceleration, _, rfl, rfl, fun other different => ?_, rfl⟩
      cases other <;> first | contradiction | rfl

/-- A setting shows in the slot of its leaf, and in no other one. -/
theorem read_set (leaf : Leaf) (sample : Sample) (setting : Sample.Setting) :
    leaf.slot.read (sample.set setting) =
      (leaf.matching setting).getD (leaf.slot.read sample) := by
  obtain ⟨filled, values, matches_, full, unmatched, fill⟩ := set_fills sample setting
  rw [fill]
  by_cases same : leaf = filled
  · rw [same, matches_]
    exact Slot.read_fill full filled.slot_within sample
  · rw [unmatched leaf same]
    exact Slot.read_fill_apart (slots_apart same) sample values

theorem read_setAll (leaf : Leaf) (base : Sample) (settings : List Sample.Setting) :
    leaf.slot.read (base.setAll settings) = leaf.lastSet base settings := by
  induction settings using List.reverseRecOn with
  | nil => rfl
  | append_singleton before setting ih =>
      rw [Sample.setAll, List.foldl_append, List.foldl_cons, List.foldl_nil, read_set, lastSet,
        List.filterMap_append, List.filterMap_cons, List.filterMap_nil]
      cases leaf.matching setting with
      | none =>
          rw [List.append_nil]
          exact ih
      | some values =>
          rw [List.getLast?_concat]
          rfl

/-! ## Nodes that were used -/

/-- What a cycle needs to know of a leaf's node. -/
structure Owns (leaf : Leaf) (node : Node) : Prop where
  start : node.start = leaf.slot.start
  shape : node.event.shape = leaf.shape
  forwards : node.forwards = true

/-- A leaf's node after any use. -/
inductive Used (leaf : Leaf) : Node → Prop where
  | built (name : String) (handle : Int) : Used leaf (leaf.node name handle)
  /-- it has run a cycle -/
  | ran {node : Node} (used : Used leaf node) {σ : Type} [Outlet σ] (outlet : σ)
      (sample : Sample) : Used leaf (node.cycle outlet sample).value.1
  /-- it was asked something; an event that it is made to offer is of its shape -/
  | asked {node : Node} (used : Used leaf node) {σ : Type} [Outlet σ] (outlet : σ)
      (act : Node.Act)
      (shaped : ∀ event producer, act = .offer event producer → event.shape = leaf.shape) :
      Used leaf (node.act outlet act).1

section Outlet

variable {leaf : Leaf} {node : Node} {σ : Type} [Outlet σ]

theorem Owns.cycle (owns : leaf.Owns node) (outlet : σ) (sample : Sample) :
    leaf.Owns (node.cycle outlet sample).value.1 := by
  obtain ⟨output, stats, framed⟩ := node.cycle_frame outlet sample
  rw [framed]
  exact ⟨owns.start, owns.shape, owns.forwards⟩

theorem Owns.act (owns : leaf.Owns node) (outlet : σ) {act : Node.Act}
    (shaped : ∀ event producer, act = .offer event producer → event.shape = leaf.shape) :
    leaf.Owns (node.act outlet act).1 := by
  obtain ⟨start, shape, forwards⟩ := owns
  cases act with
  | offer event producer =>
      obtain ⟨stats, framed⟩ := Node.offer_frame { node with event := event } outlet producer
      rw [Node.act, framed]
      exact ⟨start, shaped event producer rfl, forwards⟩
  | switch on now =>
      rw [Node.act, Node.switch_value]
      split <;> exact ⟨start, shape, forwards⟩
  | setPeriod period =>
      rw [Node.act]
      split
      · rename_i set accepted
        rw [(Node.setPeriod_ok accepted).2]
        exact ⟨start, shape, forwards⟩
      · exact ⟨start, shape, forwards⟩
  | flush now =>
      rw [Node.act]
      split <;> exact ⟨start, shape, forwards⟩
  | keepOutput | setWarmup | resolve | describe | addDependency | setTrigger =>
      exact ⟨start, shape, forwards⟩

/-- No use of a node changes where it reads. -/
theorem Used.owns (used : leaf.Used node) : leaf.Owns node := by
  induction used with
  | built name handle => exact ⟨rfl, by cases leaf <;> rfl, rfl⟩
  | ran _ outlet sample ih => exact ih.cycle outlet sample
  | asked _ outlet _ shaped ih => exact ih.act outlet shaped

/-! ## What a node shows -/

/-- A cycle overwrites all values in use. -/
theorem Owns.receive_values (owns : leaf.Owns node) (sample : Sample) :
    (node.receive sample).event.values = leaf.slot.read sample := by
  have full : (leaf.slot.read sample).length = leaf.slot.size := by
    have within := leaf.slot_within
    rw [Slot.read, Payload.length_slice]
    omega
  have written : (node.receive sample).event.data =
      node.event.data.write 0 (leaf.slot.read sample) := by
    show node.event.data.write 0 ((sample.values.slice node.start node.event.shape.size).take
      node.event.shape.size) = _
    rw [owns.start, owns.shape, leaf.size_shape]
    exact congrArg _ (List.take_of_length_le (Nat.le_of_eq full))
  have size : (node.receive sample).event.shape.size = (leaf.slot.read sample).length := by
    rw [full, ← leaf.size_shape]
    exact congrArg Shape.size owns.shape
  rw [Event.values, written, size]
  refine Payload.slice_write _ ?_
  have within := leaf.slot_within
  omega

theorem Owns.shows (owns : leaf.Owns node) (outlet : σ) (sample : Sample) :
    (node.cycle outlet sample).value.1.Shows (leaf.slot.read sample) sample.timestamp
      sample.period := by
  obtain ⟨output, stats, framed⟩ := node.cycle_frame outlet sample
  have event : (node.cycle outlet sample).value.1.event = (node.receive sample).event := by
    rw [framed]
  have few : (leaf.slot.read sample).length ≤ 16 := by
    rw [Slot.read, Payload.length_slice]
    omega
  constructor
  case event =>
      rw [event]
      exact owns.receive_values sample
  case timestamp =>
      rw [event]
      rfl
  case output =>
      rw [Node.cycle_output owns.forwards outlet sample, Node.transform, owns.receive_values]
      exact ⟨_, rfl, rfl, rfl, Payload.values_ofList few⟩

/-- **A leaf shows what its slot was set to last**, or what the sample began with,
at the time and the period of the sample, whatever was done with the node before. -/
theorem shows_settings (used : leaf.Used node) (outlet : σ) (base : Sample)
    (settings : List Sample.Setting) :
    (node.cycle outlet (base.setAll settings)).value.1.Shows (leaf.lastSet base settings)
      base.timestamp base.period := by
  have shown := used.owns.shows outlet (base.setAll settings)
  obtain ⟨timestamp, period⟩ := base.setAll_times settings
  rw [leaf.read_setAll, timestamp, period] at shown
  exact shown

end Outlet

/-- A sample whose values are the numbers of their places. -/
def numbered : Sample := ⟨⟨(List.range 16).map fun place => ⟨place.toUInt32⟩, rfl⟩, 700, 50⟩

/-- A gravity sensor that ran a cycle and was enabled after it. -/
def usedGravity : Node :=
  (((gravity.node "gravity" 2).cycle (none : Option Pipe) numbered).value.1.act
    (none : Option Pipe) (.switch true 0)).1

/-- Of two settings of the gravity it shows the second one, with a NaN and a
negative zero; a sensor of the orientation, which nobody set, shows what the
sample began with. -/
theorem shows_settings_numbered :
    let settings : List Sample.Setting :=
      [ .gravity ⟨1⟩ ⟨2⟩ ⟨3⟩, .linearAcceleration ⟨4⟩ ⟨5⟩ ⟨6⟩,
        .gravity ⟨0x7FC00001⟩ ⟨0x80000000⟩ ⟨7⟩, .linearAcceleration ⟨8⟩ ⟨9⟩ ⟨10⟩ ]
    gravity.Used usedGravity ∧
      (usedGravity.cycle (some (Pipe.bounded 1)) (numbered.setAll settings)).value.1.Shows
        [⟨0x7FC00001⟩, ⟨0x80000000⟩, ⟨7⟩] 700 50 ∧
      ((gameRotationVector.node "orientation" 1).cycle (some (Pipe.bounded 1))
        (numbered.setAll settings)).value.1.Shows [⟨0⟩, ⟨1⟩, ⟨2⟩, ⟨3⟩] 700 50 := by
  intro settings
  have ran : gravity.Used usedGravity :=
    .asked (.ran (.built "gravity" 2) none numbered) none (.switch true 0) nofun
  exact ⟨ran, shows_settings ran (some (Pipe.bounded 1)) numbered settings,
    shows_settings (.built "orientation" 1) (some (Pipe.bounded 1)) numbered settings⟩

end Leaf

end FusionSensors
