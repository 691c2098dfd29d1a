/-
# FusionSensors.Proofs.Clamping -- the period that serves a request

A requested period is raised to the least delay of a sensor and then lowered to
its largest one, if there is a limit. Nobody checks the two limits: they may be
zero, negative, or the wrong way round. Main statement, `clampPeriod_projects`:
whatever they are, the period that serves a request is a projection that keeps
order and sign, so that requesting it again changes nothing. Where some period
lies within the limits, it is the nearest of those. Where none does, because the
least delay is above the largest, all requests are served by the largest delay
(`clampPeriod_inverted`), which is then not within the limits.
-/
import FusionSensors.Proofs.Limits
import Mathlib.Algebra.Order.Group.Unbundled.Int

namespace FusionSensors

set_option autoImplicit false

namespace Descriptor

variable (d : Descriptor)

/-- A period lies within the delay limits. -/
structure Within (period : Int) : Prop where
  least : d.minDelay * 1000 ≤ period
  largest : 0 < d.maxDelay → period ≤ d.maxDelay * 1000

/-- The limits leave some period. -/
def Consistent : Prop := d.maxDelay ≤ 0 ∨ d.minDelay ≤ d.maxDelay

instance : Decidable d.Consistent := inferInstanceAs (Decidable (_ ∨ _))

/-! ## The two steps -/

theorem clampPeriod_unlimited (unlimited : d.maxDelay ≤ 0) (period : Int) :
    d.clampPeriod period = max period (d.minDelay * 1000) :=
  if_neg (Int.not_lt.2 unlimited)

theorem clampPeriod_limited (limited : 0 < d.maxDelay) (period : Int) :
    d.clampPeriod period = min (max period (d.minDelay * 1000)) (d.maxDelay * 1000) :=
  if_pos limited

theorem clampPeriod_monotone {period later : Int} (ordered : period ≤ later) :
    d.clampPeriod period ≤ d.clampPeriod later := by
  have raised : max period (d.minDelay * 1000) ≤ max later (d.minDelay * 1000) :=
    max_le_max_right _ ordered
  by_cases limited : 0 < d.maxDelay
  · rw [d.clampPeriod_limited limited, d.clampPeriod_limited limited]
    exact min_le_min_right _ raised
  · have unlimited := Int.not_lt.1 limited
    rw [d.clampPeriod_unlimited unlimited, d.clampPeriod_unlimited unlimited]
    exact raised

variable {d}

theorem clampPeriod_within (consistent : d.Consistent) (period : Int) :
    d.Within (d.clampPeriod period) := by
  by_cases limited : 0 < d.maxDelay
  · have ordered : d.minDelay * 1000 ≤ d.maxDelay * 1000 :=
      Int.mul_le_mul_of_nonneg_right (consistent.resolve_left (Int.not_le.2 limited)) (by decide)
    rw [d.clampPeriod_limited limited]
    exact ⟨le_min (le_max_right ..) ordered, fun _ => min_le_right ..⟩
  · rw [d.clampPeriod_unlimited (Int.not_lt.1 limited)]
    exact ⟨le_max_right .., fun positive => absurd positive limited⟩

/-- A period that is raised is raised to the least one, and one that is lowered is
lowered to the largest. -/
theorem clampPeriod_moved (period : Int) :
    d.clampPeriod period = period ∨
      (period < d.clampPeriod period ∧ d.clampPeriod period ≤ d.minDelay * 1000) ∨
      (d.clampPeriod period < period ∧ 0 < d.maxDelay ∧
        d.clampPeriod period = d.maxDelay * 1000) := by
  by_cases limited : 0 < d.maxDelay
  · rw [d.clampPeriod_limited limited]
    omega
  · rw [d.clampPeriod_unlimited (Int.not_lt.1 limited)]
    omega

/-- No other period within the limits is as near to a request. -/
theorem clampPeriod_nearest {period other : Int} (within : d.Within other)
    (apart : other ≠ d.clampPeriod period) :
    |d.clampPeriod period - period| < |other - period| := by
  rcases d.clampPeriod_moved period with kept | ⟨raised, least⟩ | ⟨lowered, limited, largest⟩
  · rw [kept] at apart ⊢
    rw [Int.sub_self, abs_zero]
    exact abs_pos.2 (by omega)
  · have beyond : d.clampPeriod period < other := by
      have above := within.least
      omega
    rw [abs_of_pos (by omega), abs_of_pos (by omega)]
    omega
  · have beyond : other < d.clampPeriod period := by
      have below := within.largest limited
      omega
    rw [abs_of_neg (by omega), abs_of_neg (by omega)]
    omega

/-- Limits that leave no period serve every request alike. -/
theorem clampPeriod_inverted (inverted : ¬ d.Consistent) (period : Int) :
    d.clampPeriod period = d.maxDelay * 1000 := by
  rw [Consistent, not_or] at inverted
  rw [d.clampPeriod_limited (by omega)]
  omega

/-- How a descriptor serves requests. -/
structure Projects (d : Descriptor) : Prop where
  monotone : ∀ period later, period ≤ later → d.clampPeriod period ≤ d.clampPeriod later
  idempotent : ∀ period, d.clampPeriod (d.clampPeriod period) = d.clampPeriod period
  positive : ∀ period, 0 < period → 0 < d.clampPeriod period
  within : d.Consistent → ∀ period, d.Within (d.clampPeriod period)
  nearest : d.Consistent → ∀ period other, d.Within other → other ≠ d.clampPeriod period →
    |d.clampPeriod period - period| < |other - period|
  inverted : ¬ d.Consistent → ∀ period, d.clampPeriod period = d.maxDelay * 1000

theorem projects (d : Descriptor) : d.Projects where
  monotone _ _ := d.clampPeriod_monotone
  idempotent := d.supports_clampPeriod
  positive _ := d.clampPeriod_pos
  within := clampPeriod_within
  nearest _ _ _ := clampPeriod_nearest
  inverted := clampPeriod_inverted

end Descriptor

namespace Node

/-- Setting the period that a node already has changes nothing. -/
theorem paced_paced (node : Node) (period : Int) :
    (node.paced period).paced (node.descriptor.clampPeriod period) = node.paced period := by
  have supported := node.descriptor.supports_clampPeriod period
  have same : (node.paced period).descriptor.clampPeriod (node.descriptor.clampPeriod period) =
      node.descriptor.clampPeriod period := supported
  rw [paced, same]
  rfl

/-- **A request is served by a projection onto the limits**, whatever these are;
so a node that is asked for the period it answered stays as it is and answers
the same. -/
theorem clampPeriod_projects (d : Descriptor) :
    d.Projects ∧ ∀ node : Node, node.descriptor = d → ∀ period, 0 < period →
      ∃ first again, node.setPeriod period = .ok first ∧
        first.value.2 = d.clampPeriod period ∧
        first.value.1.setPeriod first.value.2 = .ok again ∧ again.value = first.value := by
  refine ⟨d.projects, ?_⟩
  rintro node rfl period positive
  obtain ⟨first, accepted, value⟩ := node.setPeriod_pos positive
  have kept : 0 < node.descriptor.clampPeriod period := node.descriptor.clampPeriod_pos positive
  obtain ⟨again, repeated, same⟩ := (node.paced period).setPeriod_pos kept
  refine ⟨first, again, accepted, by rw [value], by rw [value]; exact repeated, ?_⟩
  rw [same, value, paced_paced]
  exact congrArg (node.paced period, ·) (node.descriptor.supports_clampPeriod period)

/-- A node whose limits are the wrong way round. -/
def backwards : Node :=
  { blank "backwards" 1 .gravity .leaf .axis3 with
    descriptor := { Descriptor.ofKind "backwards" 1 .gravity with minDelay := 7, maxDelay := 2 } }

/-- Such a node serves a request of five by its largest delay, and the answer by itself. -/
theorem backwards_settles : (0 : Int) < 5 ∧ ¬ backwards.descriptor.Consistent ∧
    ∃ first again, backwards.setPeriod 5 = .ok first ∧ first.value.2 = 2000 ∧
      first.value.1.setPeriod first.value.2 = .ok again ∧ again.value = first.value := by
  have inverted : ¬ backwards.descriptor.Consistent := by decide
  have served := (clampPeriod_projects backwards.descriptor).2 backwards rfl 5 (by decide)
  rw [Descriptor.clampPeriod_inverted inverted 5] at served
  exact ⟨by decide, inverted, served⟩

end Node

end FusionSensors
