/-
# FusionSensors.Proofs.Spacing -- how far apart delivered events are

A gate paces by the gap since the last event that went through, snapped to the
producer's periods. The gap is exact where it fits a time, and too small where
it wraps around (`elapsed_le`), so that what is delivered is never too early.
Snapping moves a gap by at most half a period, up or down (`snapped_le`,
`lt_snapped`), and does not move a gap of whole periods up
(`snapped_le_of_dvd`). Main statement, `deliveries_spaced`: so two successive
deliveries are the requested period apart, less half a producer period at most,
and no event is held back that comes half a producer period late. It holds in
every run of requests, resets and offers, since nothing but a delivery or a
reset touches what the gate remembers (`run_last`).
-/
import FusionSensors.Gate
import Mathlib.Data.List.Basic

namespace FusionSensors.Gate

set_option autoImplicit false

/-! ## The time between two events -/

section Elapsed

variable {last timestamp : Int}

theorem elapsed_le_maxTime (last timestamp : Int) : elapsed last timestamp ≤ maxTime := by
  rw [elapsed, maxTime, Int.bmod_def]
  split <;> omega

/-- Times that are not too far apart are told exactly. -/
theorem elapsed_of_fits (newer : last < timestamp) (fits : timestamp - last ≤ maxTime) :
    elapsed last timestamp = timestamp - last := by
  rw [maxTime] at fits
  rw [elapsed, Int.bmod_def]
  split <;> omega

/-- What is measured is never more than the time that passed. -/
theorem elapsed_le (newer : last < timestamp) : elapsed last timestamp ≤ timestamp - last := by
  by_cases fits : timestamp - last ≤ maxTime
  · exact Int.le_of_eq (elapsed_of_fits newer fits)
  · exact Int.le_trans (elapsed_le_maxTime last timestamp) (Int.le_of_lt (Int.not_le.1 fits))

/-- From the least time to the greatest it is a step back. -/
example : elapsed (-9223372036854775808) 9223372036854775807 = -1 := by decide

end Elapsed

/-! ## Snapped gaps -/

section Snapped

variable {gap producer : Int}

theorem snapped_raw (unknown : producer ≤ 0) (gap : Int) : snapped gap producer = gap :=
  if_pos unknown

theorem snapped_le_maxTime (known : 0 < producer) (gap : Int) : snapped gap producer ≤ maxTime := by
  rw [snapped, if_neg (by omega)]
  exact Int.min_le_right ..

/-- A gap that does not go back is divided downwards. -/
theorem snapped_of_nonneg (known : 0 < producer) (forward : 0 ≤ gap) : snapped gap producer =
    min (min (gap + producer / 2) maxTime / producer * producer) maxTime := by
  have dividend : 0 ≤ min (gap + producer / 2) maxTime := by
    rw [maxTime]
    omega
  rw [snapped, if_neg (by omega), Int.tdiv_eq_ediv_of_nonneg dividend]

theorem snapped_le (known : 0 < producer) (forward : 0 ≤ gap) :
    snapped gap producer ≤ gap + producer / 2 := by
  rw [snapped_of_nonneg known forward]
  calc min (min (gap + producer / 2) maxTime / producer * producer) maxTime
      ≤ min (gap + producer / 2) maxTime / producer * producer := Int.min_le_left ..
    _ ≤ min (gap + producer / 2) maxTime := Int.ediv_mul_le _ (by omega)
    _ ≤ gap + producer / 2 := Int.min_le_left ..

/-- A gap of whole periods is not rounded up. -/
theorem snapped_le_of_dvd (known : 0 < producer) (forward : 0 ≤ gap) (whole : producer ∣ gap) :
    snapped gap producer ≤ gap := by
  rw [snapped_of_nonneg known forward]
  obtain ⟨periods, rfl⟩ := whole
  have half : producer / 2 < producer := by omega
  have nearest : (producer * periods + producer / 2) / producer = periods := by
    rw [Int.mul_add_ediv_left _ _ (by omega), Int.ediv_eq_zero_of_lt (by omega) half, Int.add_zero]
  calc min (min (producer * periods + producer / 2) maxTime / producer * producer) maxTime
      ≤ min (producer * periods + producer / 2) maxTime / producer * producer := Int.min_le_left ..
    _ ≤ (producer * periods + producer / 2) / producer * producer :=
        Int.mul_le_mul_of_nonneg_right (Int.ediv_le_ediv known (Int.min_le_left ..)) (by omega)
    _ = producer * periods := by rw [nearest, Int.mul_comm]

/-- A gap is rounded down by less than half a period and one. -/
theorem lt_snapped (known : 0 < producer) (forward : 0 ≤ gap)
    (fits : gap + producer / 2 ≤ maxTime) : gap < snapped gap producer + (producer + 1) / 2 := by
  have floor := Int.lt_ediv_add_one_mul_self (gap + producer / 2) known
  have below := Int.ediv_mul_le (gap + producer / 2) (show producer ≠ 0 by omega)
  rw [Int.add_mul, Int.one_mul] at floor
  rw [snapped_of_nonneg known forward, Int.min_eq_left fits, Int.min_eq_left (by omega)]
  omega

end Snapped

/-! ## One step -/

theorem offer_decision (gate : Gate) (timestamp producer : Int) :
    (gate.offer timestamp producer).1 = gate.decide timestamp producer := by
  unfold offer
  split <;> simp_all

/-- An event that does not go through leaves the gate as it was. -/
theorem offer_held {gate : Gate} {timestamp producer : Int}
    (held : gate.decide timestamp producer ≠ .deliver) :
    (gate.offer timestamp producer).2 = gate := by
  unfold offer
  split
  · rename_i delivered
    exact absurd delivered held
  · rfl

/-- An event that goes through becomes the last one. -/
theorem offer_delivered {gate : Gate} {timestamp producer : Int}
    (delivered : gate.decide timestamp producer = .deliver) :
    (gate.offer timestamp producer).2 = { gate with last := some timestamp } := by
  rw [offer, delivered]

/-- What may be asked of a gate. -/
inductive Step where
  | request (period : Int)
  | reset
  | offer (timestamp producer : Int)
  deriving DecidableEq, Repr

/-- What a gate says to a step; only an offer is answered. -/
def answer (gate : Gate) : Step → Option Decision
  | .offer timestamp producer => some (gate.offer timestamp producer).1
  | _ => none

/-- The gate after a step. -/
def after (gate : Gate) : Step → Gate
  | .request period => gate.request period
  | .reset => gate.reset
  | .offer timestamp producer => (gate.offer timestamp producer).2

/-- The period that is requested after a step, given the one before it. -/
def Step.requested (period : Int) : Step → Int
  | .request other => other
  | _ => period

theorem after_requested (gate : Gate) (step : Step) :
    (gate.after step).requested = step.requested gate.requested := by
  cases step with
  | request | reset => rfl
  | offer timestamp producer =>
      by_cases delivered : gate.decide timestamp producer = .deliver
      · rw [after, offer_delivered delivered]
        rfl
      · rw [after, offer_held delivered]
        rfl

/-- Only a reset and a delivery touch the history. -/
theorem after_last {gate : Gate} {step : Step} (unreset : step ≠ .reset)
    (undelivered : gate.answer step ≠ some .deliver) : (gate.after step).last = gate.last := by
  cases step with
  | request => rfl
  | reset => exact absurd rfl unreset
  | offer timestamp producer =>
      have held : gate.decide timestamp producer ≠ .deliver := by
        rw [← offer_decision]
        exact fun delivered => undelivered (congrArg some delivered)
      rw [after, offer_held held]

/-! ## Runs -/

/-- The gate after some steps. -/
def run (gate : Gate) (steps : List Step) : Gate := steps.foldl after gate

/-- What a gate says to some steps, one after the other. -/
def answers (gate : Gate) : List Step → List Decision
  | [] => []
  | step :: rest => (gate.answer step).toList ++ (gate.after step).answers rest

theorem run_append (gate : Gate) (first second : List Step) :
    gate.run (first ++ second) = (gate.run first).run second := List.foldl_append

/-- The period of a gate is the one requested last. -/
theorem run_requested (gate : Gate) (steps : List Step) :
    (gate.run steps).requested = steps.foldl Step.requested gate.requested := by
  induction steps generalizing gate with
  | nil => rfl
  | cons step rest ih =>
      have later := ih (gate.after step)
      rw [after_requested] at later
      exact later

/-- Without a reset and a delivery a gate remembers what it did. -/
theorem run_last {gate : Gate} {steps : List Step} (unreset : .reset ∉ steps)
    (undelivered : .deliver ∉ gate.answers steps) : (gate.run steps).last = gate.last := by
  induction steps generalizing gate with
  | nil => rfl
  | cons step rest ih =>
      rw [answers, List.mem_append, Option.mem_toList, not_or] at undelivered
      obtain ⟨first, later⟩ := undelivered
      rw [List.mem_cons, not_or] at unreset
      exact (ih unreset.2 later).trans (after_last (Ne.symm unreset.1) first)

/-! ## Pacing -/

/-- What a gate says of an event after one went through at `last`, while `period`
is requested. -/
structure Paces (gate : Gate) (last period : Int) : Prop where
  /-- one that goes through is newer -/
  newer : ∀ timestamp producer, (gate.offer timestamp producer).1 = .deliver → last < timestamp
  /-- and a whole period later, where the gap is not rounded -/
  apart : ∀ timestamp producer, (gate.offer timestamp producer).1 = .deliver →
    producer ≤ 0 ∨ producer ∣ timestamp - last → period ≤ timestamp - last
  /-- or half a producer period less -/
  nearly : ∀ timestamp producer, (gate.offer timestamp producer).1 = .deliver → 0 < producer →
    period ≤ timestamp - last + producer / 2
  /-- one that comes half a producer period late is not held back -/
  due : ∀ timestamp producer, 0 < producer → timestamp - last + producer / 2 ≤ maxTime →
    period + (producer + 1) / 2 ≤ timestamp - last →
      (gate.offer timestamp producer).1 ≠ .decimated
  /-- where the producer names no period, one that is not early is not held back -/
  dueRaw : ∀ timestamp producer, producer ≤ 0 → timestamp - last ≤ maxTime →
    period ≤ timestamp - last → (gate.offer timestamp producer).1 ≠ .decimated

section Remembers

variable {gate : Gate} {last : Int}

theorem decide_elapsed (remembers : gate.last = some last) (timestamp producer : Int) :
    gate.decide timestamp producer =
      if timestamp ≤ last then .stale
      else if snapped (elapsed last timestamp) producer < gate.requested then .decimated
      else .deliver := by
  rw [decide, remembers]

/-- An event is measured by its distance from the last one, unless that is too
far back. -/
theorem decide_remembers (remembers : gate.last = some last) {timestamp : Int}
    (fits : timestamp - last ≤ maxTime) (producer : Int) : gate.decide timestamp producer =
      if timestamp ≤ last then .stale
      else if snapped (timestamp - last) producer < gate.requested then .decimated
      else .deliver := by
  rw [decide_elapsed remembers]
  split
  · rfl
  · rename_i newer
    rw [elapsed_of_fits (Int.not_le.1 newer) fits]

theorem decide_deliver (remembers : gate.last = some last) {timestamp producer : Int} :
    gate.decide timestamp producer = .deliver ↔
      last < timestamp ∧ gate.requested ≤ snapped (elapsed last timestamp) producer := by
  rw [decide_elapsed remembers]
  split
  · simpa using fun _ => by omega
  · split <;> simp <;> omega

theorem decide_decimated (remembers : gate.last = some last) {timestamp producer : Int} :
    gate.decide timestamp producer = .decimated ↔
      last < timestamp ∧ snapped (elapsed last timestamp) producer < gate.requested := by
  rw [decide_elapsed remembers]
  split
  · simpa using fun _ => by omega
  · split <;> simp <;> omega

/-- A gate that remembers an event paces by it. -/
theorem paces_of_last (remembers : gate.last = some last) :
    gate.Paces last gate.requested where
  newer timestamp producer delivered := by
    rw [offer_decision, decide_deliver remembers] at delivered
    exact delivered.1
  apart timestamp producer delivered unrounded := by
    rw [offer_decision, decide_deliver remembers] at delivered
    obtain ⟨newer, enough⟩ := delivered
    by_cases unknown : producer ≤ 0
    · rw [snapped_raw unknown] at enough
      exact Int.le_trans enough (elapsed_le newer)
    · have known := Int.not_le.1 unknown
      by_cases fits : timestamp - last ≤ maxTime
      · rw [elapsed_of_fits newer fits] at enough
        exact Int.le_trans enough
          (snapped_le_of_dvd known (by omega) (unrounded.resolve_left unknown))
      · have most := snapped_le_maxTime known (elapsed last timestamp)
        omega
  nearly timestamp producer delivered known := by
    rw [offer_decision, decide_deliver remembers] at delivered
    obtain ⟨newer, enough⟩ := delivered
    by_cases fits : timestamp - last ≤ maxTime
    · rw [elapsed_of_fits newer fits] at enough
      exact Int.le_trans enough (snapped_le known (by omega))
    · have most := snapped_le_maxTime known (elapsed last timestamp)
      omega
  due timestamp producer known fits late held := by
    rw [offer_decision, decide_decimated remembers] at held
    obtain ⟨newer, early⟩ := held
    rw [elapsed_of_fits newer (by omega)] at early
    have close := lt_snapped known (by omega) fits
    omega
  dueRaw timestamp producer unknown fits late held := by
    rw [offer_decision, decide_decimated remembers, snapped_raw unknown] at held
    obtain ⟨newer, early⟩ := held
    rw [elapsed_of_fits newer fits] at early
    omega

end Remembers

/-- **Deliveries are the requested period apart**, as near as whole producer
periods come to it: in any run of a gate, as long as the event at `last` is the
latest delivery and there was no reset. What is not delivered leaves no trace. -/
theorem deliveries_spaced (start : Gate) (before between : List Step) (last producer : Int)
    (delivered : (start.run before).answer (.offer last producer) = some .deliver)
    (unreset : .reset ∉ between)
    (undelivered : .deliver ∉ ((start.run before).after (.offer last producer)).answers between) :
    (start.run (before ++ .offer last producer :: between)).Paces last
        ((before ++ between).foldl Step.requested start.requested) ∧
      ∀ (steps : List Step) (timestamp producer : Int),
        ((start.run steps).offer timestamp producer).1 ≠ .deliver →
          ((start.run steps).offer timestamp producer).2 = start.run steps := by
  constructor
  · -- the delivery sets what the gate remembers, and what comes between does not change it
    have first : (start.run before).decide last producer = .deliver := by
      rw [← offer_decision]
      exact Option.some.inj delivered
    have remembers : ((start.run before).after (.offer last producer)).last = some last := by
      rw [after, offer_delivered first]
    have still := (run_last unreset undelivered).trans remembers
    have requested := run_requested start (before ++ .offer last producer :: between)
    rw [run_append] at requested ⊢
    have period : (before ++ .offer last producer :: between).foldl Step.requested start.requested =
        (before ++ between).foldl Step.requested start.requested := by
      rw [List.foldl_append, List.foldl_append]
      rfl
    rw [← period, ← requested]
    exact paces_of_last still
  · intro steps timestamp producer held
    rw [offer_decision] at held
    exact offer_held held

/-- The period is changed, and an early and a stale event come, before the next
event is measured from the one at 100. -/
theorem deliveries_spaced_across_request :
    (run {} [.request 10]).answer (.offer 100 4) = some .deliver ∧
      .deliver ∉ ((run {} [.request 10]).after (.offer 100 4)).answers
        [.offer 103 4, .request 6, .offer 99 5] ∧
      (run {} [.request 10, .offer 100 4, .offer 103 4, .request 6, .offer 99 5]).Paces 100 6 :=
  have delivered : (run {} [.request 10]).answer (.offer 100 4) = some .deliver := by decide
  have undelivered : .deliver ∉ ((run {} [.request 10]).after (.offer 100 4)).answers
      [.offer 103 4, .request 6, .offer 99 5] := by decide
  ⟨delivered, undelivered,
    (deliveries_spaced {} [.request 10] [.offer 103 4, .request 6, .offer 99 5] 100 4 delivered
      (by decide) undelivered).1⟩

end FusionSensors.Gate
