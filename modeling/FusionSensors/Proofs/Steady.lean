/-
# FusionSensors.Proofs.Steady -- at which rates synthetic samples are steady

Synthetic samples are meant to come at a steady rate, the first one a period
after time zero, so that a gate that sees nothing else finds none of them stale.
The period is a billion nanoseconds divided by the rate. A rate of zero counts
as one, but nothing bounds the rate from above: beyond a billion the period is
rounded down to zero, all samples belong to time zero, and a gate takes the first
one and finds all others stale (`syntheticSamples_frozen`). Main statement,
`syntheticSamples_steady_iff`: at every other rate, and there only, the samples
are steady.
-/
import FusionSensors.Proofs.Decimation
import FusionSensors.Replay.Synthetic
import Mathlib.Data.List.Chain
import Mathlib.Data.List.Range

namespace FusionSensors.Replay

set_option autoImplicit false

/-! ## Steady samples -/

/-- A sample as it is offered to a gate. -/
def offered (sample : Sample) : Gate.Step := .offer sample.timestamp sample.period

/-- Steps of a gate that sees nothing but some samples, each at most once and in
their order. It may pass over some, and be reset or asked for another period at
any time. -/
inductive Sees : List Sample → List Gate.Step → Prop where
  | nothing : Sees [] []
  | request {samples : List Sample} {steps : List Gate.Step} (period : Int) :
      Sees samples steps → Sees samples (.request period :: steps)
  | reset {samples : List Sample} {steps : List Gate.Step} :
      Sees samples steps → Sees samples (.reset :: steps)
  | passed {samples : List Sample} {steps : List Gate.Step} (sample : Sample) :
      Sees samples steps → Sees (sample :: samples) steps
  | offered {samples : List Sample} {steps : List Gate.Step} (sample : Sample) :
      Sees samples steps → Sees (sample :: samples) (offered sample :: steps)

/-- Samples that come at a steady rate from time zero on. -/
structure Steady (samples : List Sample) (period : Int) : Prop where
  positive : ∀ sample ∈ samples, 0 < sample.period
  alike : ∀ sample ∈ samples, sample.period = period
  first : ∀ sample ∈ samples.head?, sample.timestamp = period
  next : samples.IsChain fun sample later => later.timestamp = sample.timestamp + period
  ascending : samples.Pairwise fun sample later => sample.timestamp < later.timestamp
  /-- no gate that remembers nothing else finds one stale, whatever it is asked for -/
  fresh : ∀ gate steps, Sees samples steps → .stale ∉ Gate.answers (Gate.reset gate) steps

/-! ## Gates that see samples -/

section Gates

variable {gate : Gate}

theorem decide_fresh {timestamp : Int} (newer : ∀ last ∈ gate.last, last < timestamp)
    (producer : Int) : gate.decide timestamp producer ≠ .stale := by
  rw [Gate.decide]
  split
  · simp
  · rename_i last remembers
    rw [if_neg (Int.not_le.2 (newer last remembers))]
    split <;> simp

/-- What a gate remembers after an offer is the offer, or what it was before. -/
theorem after_offer_last (timestamp producer : Int) {last : Int}
    (remembers : last ∈ (gate.after (.offer timestamp producer)).last) :
    last = timestamp ∨ last ∈ gate.last := by
  by_cases delivered : gate.decide timestamp producer = .deliver
  · rw [Gate.after, Gate.offer_delivered delivered] at remembers
    exact .inl (Option.some.inj remembers).symm
  · rw [Gate.after, Gate.offer_held delivered] at remembers
    exact .inr remembers

/-- A gate finds none of the samples stale whose times ascend from what it
remembers. -/
theorem answers_fresh {samples : List Sample} {steps : List Gate.Step} (sees : Sees samples steps)
    (ascending : samples.Pairwise fun sample later => sample.timestamp < later.timestamp)
    (newer : ∀ last ∈ gate.last, ∀ sample ∈ samples, last < sample.timestamp) :
    .stale ∉ gate.answers steps := by
  induction sees generalizing gate with
  | nothing => simp [Gate.answers]
  | request period _ ih => exact ih ascending newer
  | reset _ ih => exact ih ascending (by simp [Gate.after, Gate.reset])
  | passed sample _ ih =>
      exact ih ascending.of_cons fun last remembers other mem =>
        newer last remembers other (List.mem_cons_of_mem _ mem)
  | @offered samples steps sample _ ih =>
      have fresh := decide_fresh
        (fun last remembers => newer last remembers sample List.mem_cons_self) sample.period
      have later : .stale ∉ (gate.after (offered sample)).answers steps := by
        refine ih ascending.of_cons fun last remembers other mem => ?_
        rcases after_offer_last _ _ remembers with rfl | before
        · exact List.rel_of_pairwise_cons ascending mem
        · exact newer last before other (List.mem_cons_of_mem _ mem)
      rw [Gate.answers, List.mem_append, not_or]
      refine ⟨fun stale => fresh ?_, later⟩
      rw [← Gate.offer_decision]
      exact Option.some.inj (Option.mem_toList.1 stale)

theorem steady_nil (period : Int) : Steady [] period where
  positive := by simp
  alike := by simp
  first := by simp
  next := .nil
  ascending := .nil
  fresh _ _ sees := answers_fresh sees .nil (by simp)

/-- Offers at a time that is remembered are stale, and change nothing. -/
theorem answers_again {last : Int} (remembers : gate.last = some last) (producer : Int)
    (count : Nat) : gate.answers (List.replicate count (.offer last producer)) =
      List.replicate count .stale := by
  have stale : gate.decide last producer = .stale := by
    rw [Gate.decide_elapsed remembers, if_pos (Int.le_refl last)]
  induction count with
  | zero => rfl
  | succ count ih =>
      have same : gate.after (.offer last producer) = gate := Gate.offer_held (by simp [stale])
      rw [List.replicate_succ, Gate.answers, same, ih, List.replicate_succ, Gate.answer,
        Gate.offer_decision, stale]
      rfl

end Gates

/-! ## Synthetic samples -/

section Synthetic

variable {rate : Nat}

theorem syntheticSample_timestamp (rate number : Nat) :
    (syntheticSample rate number).timestamp = (number + 1) * periodOfRate rate := rfl

theorem syntheticSample_period (rate number : Nat) :
    (syntheticSample rate number).period = periodOfRate rate := rfl

theorem periodOfRate_pos_iff (rate : Nat) : 0 < periodOfRate rate ↔ rate ≤ 1000000000 := by
  rw [periodOfRate, Nat.div_pos_iff]
  omega

theorem syntheticSample_next (rate number : Nat) :
    (syntheticSample rate (number + 1)).timestamp =
      (syntheticSample rate number).timestamp + periodOfRate rate := by
  rw [syntheticSample_timestamp, syntheticSample_timestamp]
  push_cast
  ring

theorem syntheticSample_ascends (slow : rate ≤ 1000000000) {number later : Nat}
    (before : number < later) :
    (syntheticSample rate number).timestamp < (syntheticSample rate later).timestamp := by
  have positive : (0 : Int) < periodOfRate rate := by
    exact_mod_cast (periodOfRate_pos_iff rate).2 slow
  rw [syntheticSample_timestamp, syntheticSample_timestamp]
  exact Int.mul_lt_mul_of_pos_right (by omega) positive

theorem syntheticSamples_ascending (slow : rate ≤ 1000000000) (count : Nat) :
    (syntheticSamples count rate).Pairwise
      fun sample later => sample.timestamp < later.timestamp :=
  List.pairwise_lt_range.map _ fun _ _ => syntheticSample_ascends slow

theorem syntheticSamples_steady (slow : rate ≤ 1000000000) (count : Nat) :
    Steady (syntheticSamples count rate) (periodOfRate rate) where
  positive sample mem := by
    obtain ⟨number, -, rfl⟩ := List.mem_map.1 mem
    rw [syntheticSample_period]
    exact_mod_cast (periodOfRate_pos_iff rate).2 slow
  alike sample mem := by
    obtain ⟨number, -, rfl⟩ := List.mem_map.1 mem
    exact syntheticSample_period rate number
  first sample mem := by
    cases count with
    | zero => simp [syntheticSamples] at mem
    | succ count =>
        rw [syntheticSamples, List.range_succ_eq_map, List.map_cons] at mem
        obtain rfl := Option.some.inj mem
        rw [syntheticSample_timestamp]
        push_cast
        ring
  next := by
    rw [syntheticSamples, List.isChain_map, List.isChain_range]
    intro number _
    exact syntheticSample_next rate number
  ascending := syntheticSamples_ascending slow count
  fresh gate steps sees :=
    answers_fresh sees (syntheticSamples_ascending slow count) (by simp [Gate.reset])

/-- Beyond a billion hertz all samples belong to time zero. -/
theorem syntheticSample_frozen (fast : 1000000000 < rate) (number : Nat) :
    (syntheticSample rate number).timestamp = 0 ∧ (syntheticSample rate number).period = 0 := by
  have none : periodOfRate rate = 0 := by
    have rounded := mt (periodOfRate_pos_iff rate).1 (Nat.not_le.2 fast)
    omega
  rw [syntheticSample_timestamp, syntheticSample_period, none]
  simp

/-- A gate takes the first one of them, and all others are stale. -/
theorem syntheticSamples_frozen (fast : 1000000000 < rate) (gate : Gate) (count : Nat) :
    gate.reset.answers ((syntheticSamples (count + 1) rate).map offered) =
      .deliver :: List.replicate count .stale := by
  have same : (syntheticSamples (count + 1) rate).map offered =
      .offer 0 0 :: List.replicate count (.offer 0 0) := by
    rw [← List.replicate_succ, syntheticSamples, List.map_map, List.eq_replicate_iff]
    refine ⟨by simp, fun step mem => ?_⟩
    obtain ⟨number, -, rfl⟩ := List.mem_map.1 mem
    obtain ⟨zero, still⟩ := syntheticSample_frozen fast number
    rw [Function.comp_apply, offered, zero, still]
  rw [same, Gate.answers]
  exact congrArg (Gate.Decision.deliver :: ·) (answers_again rfl 0 count)

end Synthetic

/-- **Synthetic samples are steady up to a billion hertz**, a rate of zero
included, and beyond that no sample is: a gate delivers one of any number. -/
theorem syntheticSamples_steady_iff (count rate : Nat) :
    ((∃ period, Steady (syntheticSamples count rate) period) ↔
      count = 0 ∨ rate ≤ 1000000000) ∧
    (rate ≤ 1000000000 → Steady (syntheticSamples count rate) (periodOfRate rate)) ∧
    (1000000000 < rate →
      (∀ sample ∈ syntheticSamples count rate, sample.timestamp = 0 ∧ sample.period = 0) ∧
      ∀ gate : Gate, gate.reset.answers ((syntheticSamples count rate).map offered) =
        (List.replicate count .stale).set 0 .deliver) := by
  refine ⟨⟨?_, ?_⟩, fun slow => syntheticSamples_steady slow count, fun fast => ⟨?_, ?_⟩⟩
  · rintro ⟨period, steady⟩
    cases count with
    | zero => exact .inl rfl
    | succ count =>
        have positive := steady.positive (syntheticSample rate 0)
          (List.mem_map_of_mem (List.mem_range.2 (Nat.succ_pos count)))
        rw [syntheticSample_period] at positive
        exact .inr ((periodOfRate_pos_iff rate).1 (by exact_mod_cast positive))
  · rintro (rfl | slow)
    · exact ⟨0, steady_nil 0⟩
    · exact ⟨periodOfRate rate, syntheticSamples_steady slow count⟩
  · intro sample mem
    obtain ⟨number, -, rfl⟩ := List.mem_map.1 mem
    exact syntheticSample_frozen fast number
  · intro gate
    cases count with
    | zero => rfl
    | succ count => exact syntheticSamples_frozen fast gate count

/-- A rate of zero gives a sample a second, and the largest rate of 32 bits gives
samples of which one is delivered. -/
theorem syntheticSamples_steady_extremes :
    (0 ≤ 1000000000 ∧ Steady (syntheticSamples 3 0) 1000000000) ∧
    (1000000000 < 4294967295 ∧
      Gate.answers {} ((syntheticSamples 3 4294967295).map offered) = [.deliver, .stale, .stale]) :=
  ⟨⟨by decide, (syntheticSamples_steady_iff 3 0).2.1 (by decide)⟩,
    by decide, ((syntheticSamples_steady_iff 3 4294967295).2.2 (by decide)).2 {}⟩

/-- Two samples at two billion hertz belong to the same time, and the second one
is stale. -/
theorem syntheticSamples_unsteady :
    (syntheticSamples 2 2000000000).map (fun sample => (sample.timestamp, sample.period)) =
      [(0, 0), (0, 0)] ∧
    (∀ period, ¬ Steady (syntheticSamples 2 2000000000) period) ∧
    Gate.answers {} ((syntheticSamples 2 2000000000).map offered) = [.deliver, .stale] := by
  refine ⟨rfl, fun period steady => ?_, syntheticSamples_frozen (by decide) {} 1⟩
  have positive := steady.positive _ List.mem_cons_self
  rw [(syntheticSample_frozen (by decide) 0).2] at positive
  exact absurd positive (by decide)

end FusionSensors.Replay
