/-
# FusionSensors.Proofs.Cycle -- what one cycle of a node does

A cycle has three effects, and each depends on little.

* The node keeps its nature, everything but its history (`Node.bare`).
* Its output is its slot of the sample (`Node.transform`), whatever it did
  before: each cycle overwrites the same values of the event.
* Gate and session move on by the verdict on the event alone; the outlet only
  decides under which heading a due event is counted.
-/
import FusionSensors.Node

namespace FusionSensors

set_option autoImplicit false

/-! ## Overwriting a payload -/

namespace Payload

theorem length_slice (p : Payload) (start count : Nat) :
    (p.slice start count).length = min count (16 - start) := by
  simp [slice, p.length_values]

/-- A payload of some values has them and zeros behind. -/
theorem values_ofList {values : List Single} (fits : values.length ≤ 16) :
    (ofList values).values = values ++ List.replicate (16 - values.length) .zero := by
  apply List.ext_getElem?
  intro i
  have blank : zero.values[i]? = if i < 16 then some .zero else none := List.getElem?_replicate
  rw [ofList, values_write, blank]
  by_cases within : i < values.length
  · have inside : i < 16 := by omega
    simp [inside, List.getElem?_append_left within, List.getElem?_eq_getElem within]
  · have beyond : values.length ≤ i := by omega
    rw [List.getElem?_append_right beyond, List.getElem?_replicate]
    by_cases inside : i < 16
    · have room : i - values.length < 16 - values.length := by omega
      simp [inside, room, beyond]
    · have full : ¬ i - values.length < 16 - values.length := by omega
      simp [inside, full]

/-- A second write of at least as many values hides the first. -/
theorem write_write (p : Payload) (start : Nat) (first second : List Single)
    (longer : first.length ≤ second.length) :
    (p.write start first).write start second = p.write start second := by
  apply Payload.ext
  apply List.ext_getElem?
  intro i
  simp only [values_write, Option.map_map]
  congr 1
  funext old
  by_cases before : i < start
  · simp [before]
  · by_cases within : i - start < second.length
    · simp [before, List.getElem?_eq_getElem within]
    · have beyond : first.length ≤ i - start := by omega
      simp [before, List.getElem?_eq_none beyond]

end Payload

namespace Node

/-! ## What a node keeps -/

theorem receive_receive (node : Node) (first second : Sample) :
    (node.receive first).receive second = node.receive second := by
  simp only [receive, Event.fill]
  congr 2
  exact Payload.write_write _ 0 _ _ (by simp [Payload.length_slice])

theorem receive_receive_event (node : Node) (first second : Sample) :
    ((node.receive first).receive second).event = (node.receive second).event := by
  rw [receive_receive]

/-- A node without its history: as it was built, with its event as a sample of
zeros leaves it. -/
def bare (node : Node) : Node :=
  { node with
    event := (node.receive (.blank 0 0)).event
    gate := {}
    session := none
    output := none
    stats := {} }

/-- What the node makes of a sample. -/
def transform (node : Node) (sample : Sample) : Sample :=
  ⟨.ofList (node.receive sample).event.values, sample.timestamp, sample.period⟩

@[simp] theorem handle_bare (node : Node) : node.bare.handle = node.handle := rfl

@[simp] theorem kind_bare (node : Node) : node.bare.kind = node.kind := rfl

@[simp] theorem triggerKind_bare (node : Node) : node.bare.triggerKind = node.triggerKind := rfl

@[simp] theorem forwards_bare (node : Node) : node.bare.forwards = node.forwards := rfl

theorem receive_bare_event (node : Node) (sample : Sample) :
    (node.bare.receive sample).event = (node.receive sample).event := by
  rw [← receive_receive_event node (.blank 0 0) sample]
  rfl

@[simp] theorem transform_bare (node : Node) (sample : Sample) :
    node.bare.transform sample = node.transform sample := by
  simp only [transform, receive_bare_event]

/-- Receiving a sample and then making history leaves the nature of a node. -/
theorem bare_eq_of_receive {node after : Node} (sample : Sample)
    (history : ∃ gate session output stats, after = { node.receive sample with
      gate := gate, session := session, output := output, stats := stats }) :
    after.bare = node.bare := by
  obtain ⟨gate, session, output, stats, rfl⟩ := history
  have event := receive_receive_event node sample (.blank 0 0)
  simp only [bare] at event ⊢
  rw [← event]
  rfl

/-! ## What an offer does -/

/-- The gate after the node's event was offered. -/
def gateAfter (node : Node) (producer : Int) : Gate :=
  if node.verdict producer = .due then { node.gate with last := some node.event.timestamp }
  else node.gate

/-- The session after the node's event was offered. -/
def sessionAfter (node : Node) (producer : Int) : Option Session :=
  if node.verdict producer = .warmingUp then node.warmedUp else node.session

theorem decide_of_due {node : Node} {producer : Int} (due : node.verdict producer = .due) :
    node.gate.decide node.event.timestamp producer = .deliver := by
  unfold verdict at due
  split at due
  · cases due
  · split at due
    · cases due
    · split at due
      · cases due
      · split at due <;> first | assumption | cases due

section Offer

variable {σ : Type} [Outlet σ]

/-- An offer ends in one of two ways. Either a due event is accepted by the
outlet, or the outlet is left as it was and the event is counted as decimated
or dropped; gate and session do not depend on which. -/
theorem offer_cases (node : Node) (outlet : σ) (producer : Int) :
    (∃ taken, node.verdict producer = .due ∧ Outlet.connected outlet = true ∧
        Outlet.send outlet node.event = .ok taken ∧
        (node.offer outlet producer).value =
          ({ node with
              gate := node.gateAfter producer
              session := node.sessionAfter producer
              stats := (node.stats.countOffered producer).countDelivered }, taken)) ∨
      (∃ stats, (stats = (node.stats.countOffered producer).countDropped ∨
          stats = (node.stats.countOffered producer).countDecimated) ∧
        (node.offer outlet producer).value =
          ({ node with
              gate := node.gateAfter producer
              session := node.sessionAfter producer
              stats := stats }, outlet)) := by
  cases reached : node.verdict producer with
  | outside => exact .inr ⟨_, .inl rfl, by simp [offer, reached, gateAfter, sessionAfter]⟩
  | warmingUp => exact .inr ⟨_, .inl rfl, by simp [offer, reached, gateAfter, sessionAfter]⟩
  | decimated => exact .inr ⟨_, .inr rfl, by simp [offer, reached, gateAfter, sessionAfter]⟩
  | stale => exact .inr ⟨_, .inl rfl, by simp [offer, reached, gateAfter, sessionAfter]⟩
  | due =>
      have noted : (node.gate.offer node.event.timestamp producer).2 = node.gateAfter producer := by
        simp [Gate.offer, decide_of_due reached, gateAfter, reached]
      have kept : node.sessionAfter producer = node.session := by simp [sessionAfter, reached]
      cases plugged : Outlet.connected outlet with
      | false => exact .inr ⟨_, .inl rfl, by simp [offer, reached, plugged, noted, kept]⟩
      | true =>
          cases sent : Outlet.send outlet node.event with
          | ok taken =>
              exact .inl ⟨taken, rfl, rfl, rfl, by simp [offer, reached, plugged, sent, noted, kept]⟩
          | error fault =>
              refine .inr ⟨_, .inl rfl, ?_⟩
              cases fault <;> simp [offer, reached, plugged, sent, noted, kept]

/-- Of the node an offer changes gate, session and counters only. -/
theorem offer_frame (node : Node) (outlet : σ) (producer : Int) :
    ∃ stats, (node.offer outlet producer).value.1 = { node with
      gate := node.gateAfter producer
      session := node.sessionAfter producer
      stats := stats } := by
  rcases offer_cases node outlet producer with ⟨taken, -, -, -, ended⟩ | ⟨stats, -, ended⟩
  all_goals
    rw [ended]
    exact ⟨_, rfl⟩

/-- An event that is not due goes nowhere. -/
theorem offer_kept {node : Node} {producer : Int} (undue : node.verdict producer ≠ .due)
    (outlet : σ) : (node.offer outlet producer).value.2 = outlet := by
  rcases offer_cases node outlet producer with ⟨taken, due, -⟩ | ⟨stats, -, ended⟩
  · exact absurd due undue
  · rw [ended]

/-- An event that is due goes to an outlet that takes it. -/
theorem offer_sent {node : Node} {producer : Int} (due : node.verdict producer = .due)
    {outlet taken : σ} (plugged : Outlet.connected outlet = true)
    (sent : Outlet.send outlet node.event = .ok taken) :
    (node.offer outlet producer).value.2 = taken := by
  simp [offer, due, plugged, sent]

/-! ## What a cycle does -/

theorem cycle_value (node : Node) (outlet : σ) (sample : Sample) :
    (node.cycle outlet sample).value =
      let offered := ((node.receive sample).offer outlet sample.period).value
      (if node.forwards then offered.1.keepOutput sample.period else offered.1, offered.2) := rfl

/-- A cycle sets the event and moves gate and session on by the verdict on it;
output and counters are the rest of what it may change. -/
theorem cycle_frame (node : Node) (outlet : σ) (sample : Sample) :
    ∃ output stats, (node.cycle outlet sample).value.1 = { node.receive sample with
      gate := (node.receive sample).gateAfter sample.period
      session := (node.receive sample).sessionAfter sample.period
      output := output
      stats := stats } := by
  obtain ⟨stats, framed⟩ := offer_frame (node.receive sample) outlet sample.period
  rw [cycle_value]
  dsimp only
  rw [framed]
  cases node.forwards
  · exact ⟨_, _, rfl⟩
  · exact ⟨_, _, rfl⟩

theorem cycle_bare (node : Node) (outlet : σ) (sample : Sample) :
    (node.cycle outlet sample).value.1.bare = node.bare := by
  obtain ⟨output, stats, framed⟩ := cycle_frame node outlet sample
  exact bare_eq_of_receive sample ⟨_, _, output, stats, framed⟩

/-- The outlet is left as it was, or takes the event. -/
theorem cycle_outlet (node : Node) (outlet : σ) (sample : Sample) :
    (node.cycle outlet sample).value.2 = outlet ∨
      Outlet.send outlet (node.receive sample).event = .ok (node.cycle outlet sample).value.2 := by
  rw [cycle_value]
  rcases offer_cases (node.receive sample) outlet sample.period
    with ⟨taken, -, -, sent, ended⟩ | ⟨stats, -, ended⟩
  · exact .inr (by rw [ended, sent])
  · exact .inl (by rw [ended])

theorem cycle_period (node : Node) (outlet : σ) (sample : Sample) :
    (node.cycle outlet sample).value.1.period = node.period := by
  obtain ⟨output, stats, framed⟩ := cycle_frame node outlet sample
  rw [framed]
  show ((node.receive sample).gateAfter sample.period).requested = _
  unfold gateAfter
  split <;> rfl

theorem cycle_isEnabled (node : Node) (outlet : σ) (sample : Sample) :
    (node.cycle outlet sample).value.1.isEnabled = node.isEnabled := by
  obtain ⟨output, stats, framed⟩ := cycle_frame node outlet sample
  rw [framed]
  show ((node.receive sample).sessionAfter sample.period).isSome = _
  unfold sessionAfter
  split
  · exact Option.isSome_map
  · rfl

/-- The cycle of a node that forwards: the offer, and then the node's own
output of this very sample. -/
theorem cycle_cases {node : Node} (forwards : node.forwards = true) (outlet : σ)
    (sample : Sample) :
    (∃ taken, (node.receive sample).verdict sample.period = .due ∧
        Outlet.connected outlet = true ∧
        Outlet.send outlet (node.receive sample).event = .ok taken ∧
        (node.cycle outlet sample).value =
          ({ node.receive sample with
              gate := (node.receive sample).gateAfter sample.period
              session := (node.receive sample).sessionAfter sample.period
              output := some (node.transform sample)
              stats := (node.stats.countOffered sample.period).countDelivered.countProcessed },
            taken)) ∨
      (∃ stats, (stats = (node.stats.countOffered sample.period).countDropped.countProcessed ∨
          stats = (node.stats.countOffered sample.period).countDecimated.countProcessed) ∧
        (node.cycle outlet sample).value =
          ({ node.receive sample with
              gate := (node.receive sample).gateAfter sample.period
              session := (node.receive sample).sessionAfter sample.period
              output := some (node.transform sample)
              stats := stats }, outlet)) := by
  rw [cycle_value, forwards]
  rcases offer_cases (node.receive sample) outlet sample.period
    with ⟨taken, due, plugged, sent, ended⟩ | ⟨stats, counted, ended⟩
  · exact .inl ⟨taken, due, plugged, sent, by rw [ended]; rfl⟩
  · refine .inr ⟨stats.countProcessed, ?_, by rw [ended]; rfl⟩
    exact counted.imp (congrArg Stats.countProcessed) (congrArg Stats.countProcessed)

theorem cycle_output {node : Node} (forwards : node.forwards = true) (outlet : σ)
    (sample : Sample) :
    (node.cycle outlet sample).value.1.output = some (node.transform sample) := by
  rcases cycle_cases forwards outlet sample with ⟨_, _, _, _, ended⟩ | ⟨_, _, ended⟩ <;> rw [ended]

theorem cycle_processed {node : Node} (forwards : node.forwards = true) (outlet : σ)
    (sample : Sample) :
    (node.cycle outlet sample).value.1.stats.processed = node.stats.processed + 1 := by
  rcases cycle_cases forwards outlet sample with ⟨_, _, _, _, ended⟩ | ⟨_, rfl | rfl, ended⟩
  all_goals
    rw [ended]
    rfl

end Offer

end Node

end FusionSensors
