/-
# FusionSensors.Proofs.Decimation -- every n-th event of a steady producer

A producer that runs at a period sends a train of events, each of them somewhat
early or late. As long as no two of them are off by half a period against each
other, a gap between them is snapped to the number of periods that lie between
them (`snapped_jittered`), so that the gate counts periods and not time. Main
statement, `every_nth_delivered`: a gate that remembers nothing delivers the
first event of a train and from then on each `stride`-th one, and says of all
others that they come too soon, never that they are stale; a train without any
jitter is answered alike.

What carries the induction is the place of the event that the gate remembers:
the last multiple of the stride (`latest`).
-/
import FusionSensors.Proofs.Spacing
import Mathlib.Data.Rat.Floor

namespace FusionSensors.Gate

set_option autoImplicit false

/-! ## The stride -/

/-- Of how many events of a producer a gate lets one through: as many as there
are periods in the requested one, rounded up. -/
def stride (requested producer : Int) : Nat := (max 1 ⌈(requested / producer : ℚ)⌉).toNat

theorem stride_pos (requested producer : Int) : 0 < stride requested producer := by
  have least : 1 ≤ max 1 ⌈(requested / producer : ℚ)⌉ := le_max_left ..
  rw [stride]
  omega

/-- The stride is the least number of periods that make up the requested one. -/
theorem stride_le_iff (requested : Int) {producer : Int} (known : 0 < producer) {count : Nat}
    (some : 0 < count) : stride requested producer ≤ count ↔ requested ≤ count * producer := by
  have positive : (0 : ℚ) < producer := by exact_mod_cast known
  have one : (1 : Int) ≤ count := by exact_mod_cast some
  rw [stride, Int.toNat_le, max_le_iff, Int.ceil_le, div_le_iff₀ positive]
  constructor
  · rintro ⟨-, enough⟩
    exact_mod_cast enough
  · intro enough
    exact ⟨one, by exact_mod_cast enough⟩

/-! ## Trains of events -/

/-- Events of a producer, each somewhat early or late. -/
structure Train where
  start : Int
  producer : Int
  jitter : Nat → Int

namespace Train

/-- When an event of a train comes. -/
def time (train : Train) (index : Nat) : Int :=
  train.start + index * train.producer + train.jitter index

/-- The first events of a train, offered one after the other. -/
def offers (train : Train) (length : Nat) : List Step :=
  (List.range length).map fun index => .offer (train.time index) train.producer

/-- No two of the first events are off by half a period against each other. -/
def Calm (train : Train) (length : Nat) : Prop :=
  ∀ index < length, ∀ other < length, 2 * |train.jitter index - train.jitter other| < train.producer

/-- The gaps over a number of events stay by a margin below the greatest time. -/
def Fits (train : Train) (length span : Nat) (margin : Int) : Prop :=
  ∀ index < length, ∀ last < index, index ≤ last + span →
    train.time index - train.time last + margin ≤ maxTime

/-- The same train without jitter. -/
def steady (train : Train) : Train := { train with jitter := fun _ => 0 }

theorem offers_succ (train : Train) (length : Nat) :
    train.offers (length + 1) =
      train.offers length ++ [.offer (train.time length) train.producer] := by
  rw [offers, List.range_succ, List.map_append]
  rfl

theorem time_sub (train : Train) {index last : Nat} (later : last ≤ index) :
    train.time index - train.time last =
      (index - last : Nat) * train.producer + (train.jitter index - train.jitter last) := by
  rw [time, time, Nat.cast_sub later]
  ring

theorem steady_calm (train : Train) (known : 0 < train.producer) (length : Nat) :
    train.steady.Calm length := by
  intro index _ other _
  simpa [steady] using known

end Train

/-! ## One event -/

/-- A gap that is off by less than half a period is snapped to the number of
periods in it. -/
theorem snapped_jittered {producer off : Int} (small : 2 * |off| < producer) {count : Nat}
    (forward : 0 ≤ count * producer + off) (fits : count * producer + off + producer / 2 ≤ maxTime) :
    snapped (count * producer + off) producer = count * producer := by
  -- an odd period is halved downwards, and `off` is then at most that half on either side
  obtain ⟨early, late⟩ : -producer < 2 * off ∧ 2 * off < producer :=
    abs_lt.1 (by rwa [abs_mul, abs_two])
  have known : 0 < producer := by omega
  have nearest : (count * producer + off + producer / 2) / producer = count := by
    have rest : (off + producer / 2) / producer = 0 :=
      Int.ediv_eq_zero_of_lt (by omega) (by omega)
    rw [Int.add_assoc, Int.add_comm, Int.add_mul_ediv_right _ _ (by omega), rest, Int.zero_add]
  rw [snapped_of_nonneg known forward, Int.min_eq_left fits, nearest, Int.min_eq_left (by omega)]

section Event

variable {gate : Gate} {train : Train} {length : Nat}

/-- The gate counts the periods since the event that it remembers. -/
theorem decide_train {last index : Nat} (calm : train.Calm length)
    (remembers : gate.last = some (train.time last)) (later : last < index) (within : index < length)
    (fits : train.time index - train.time last + train.producer / 2 ≤ maxTime) :
    gate.decide (train.time index) train.producer =
      if stride gate.requested train.producer ≤ index - last then .deliver else .decimated := by
  have small := calm index within last (by omega)
  have gap := train.time_sub (Nat.le_of_lt later)
  have known : 0 < train.producer := by
    have least := abs_nonneg (train.jitter index - train.jitter last)
    omega
  have newer : ¬ train.time index ≤ train.time last := by
    have bound := neg_abs_le (train.jitter index - train.jitter last)
    have one : 1 * train.producer ≤ (index - last : Nat) * train.producer :=
      Int.mul_le_mul_of_nonneg_right (by omega) (by omega)
    omega
  have told : train.time index - train.time last ≤ maxTime := by omega
  rw [gap] at fits
  rw [decide_remembers remembers told, if_neg newer, gap, snapped_jittered small (by omega) fits]
  by_cases enough : stride gate.requested train.producer ≤ index - last
  · have due := (stride_le_iff gate.requested known (by omega)).1 enough
    rw [if_pos enough, if_neg (by omega)]
  · have early := mt (stride_le_iff gate.requested known (by omega)).2 enough
    rw [if_neg enough, if_pos (by omega)]

/-- The place of the last delivery before an event, if one of every so many is
delivered. -/
def latest (every : Nat) : Nat → Option Nat
  | 0 => none
  | index + 1 => some (index / every * every)

/-- The place of the last delivery is that far back only where the next one is. -/
theorem latest_due {every : Nat} (some : 0 < every) (index : Nat) :
    every ≤ index + 1 - index / every * every ↔ every ∣ index + 1 := by
  have split := Nat.div_add_mod' index every
  have less := Nat.mod_lt index some
  constructor
  · intro due
    have whole : index + 1 = (index / every + 1) * every := by
      rw [Nat.add_mul, Nat.one_mul]
      omega
    exact ⟨index / every + 1, by rw [whole, Nat.mul_comm]⟩
  · intro whole
    apply Nat.le_of_dvd (by omega)
    exact Nat.dvd_sub whole (Nat.dvd_mul_left ..)

/-- After a multiple of the stride that one is the last delivery, and after any
other event it is the same as before. -/
theorem latest_succ {every : Nat} (index : Nat) :
    latest every (index + 1) = if every ∣ index then some index else latest every index := by
  split
  · rename_i whole
    rw [latest, Nat.div_mul_cancel whole]
  · rename_i between
    cases index with
    | zero => exact absurd (Nat.dvd_zero every) between
    | succ index => rw [latest, latest, Nat.succ_div_of_not_dvd between]

/-- A gate that remembers the last delivery delivers the multiples of its stride. -/
theorem decide_latest {every index : Nat} (strides : stride gate.requested train.producer = every)
    (calm : train.Calm length) (fits : train.Fits length every (train.producer / 2))
    (within : index < length) (remembers : gate.last = (latest every index).map train.time) :
    gate.decide (train.time index) train.producer =
      if every ∣ index then .deliver else .decimated := by
  have some : 0 < every := strides ▸ stride_pos gate.requested train.producer
  cases index with
  | zero =>
      rw [if_pos (Nat.dvd_zero every), decide, remembers]
      rfl
  | succ index =>
      have split := Nat.div_add_mod' index every
      have less := Nat.mod_lt index some
      have close := fits (index + 1) within (index / every * every) (by omega) (by omega)
      rw [decide_train calm remembers (by omega) within close, strides]
      simp only [latest_due some]

end Event

/-! ## All events -/

section Run

variable (gate : Gate)

theorem answers_append (first second : List Step) :
    gate.answers (first ++ second) = gate.answers first ++ (gate.run first).answers second := by
  induction first generalizing gate with
  | nil => rfl
  | cons step rest ih =>
      rw [List.cons_append, answers, answers, ih, List.append_assoc]
      rfl

theorem answers_offer (timestamp producer : Int) :
    gate.answers [.offer timestamp producer] = [gate.decide timestamp producer] := by
  rw [← offer_decision]
  rfl

theorem train_requested (train : Train) (length : Nat) :
    (gate.run (train.offers length)).requested = gate.requested := by
  induction length with
  | zero => rfl
  | succ length ih =>
      rw [train.offers_succ, run_append, ← ih]
      exact after_requested _ (.offer (train.time length) train.producer)

variable {gate} {train : Train} {every length : Nat}

/-- The gate remembers the last multiple of the stride. -/
theorem train_last (strides : stride gate.requested train.producer = every)
    (calm : train.Calm length) (fits : train.Fits length every (train.producer / 2)) {count : Nat}
    (within : count ≤ length) :
    (gate.reset.run (train.offers count)).last = (latest every count).map train.time := by
  induction count with
  | zero => rfl
  | succ count ih =>
      have before := ih (by omega)
      have decided := decide_latest (by rwa [train_requested]) calm fits (by omega) before
      rw [train.offers_succ, run_append, latest_succ]
      show ((gate.reset.run (train.offers count)).offer (train.time count) train.producer).2.last = _
      by_cases due : every ∣ count
      · rw [if_pos due] at decided ⊢
        rw [offer_delivered decided]
        rfl
      · rw [if_neg due] at decided ⊢
        rw [offer_held (by simp [decided]), before]

theorem train_answers (strides : stride gate.requested train.producer = every)
    (calm : train.Calm length) (fits : train.Fits length every (train.producer / 2)) {count : Nat}
    (within : count ≤ length) :
    gate.reset.answers (train.offers count) = (List.range count).map fun index =>
      if every ∣ index then .deliver else .decimated := by
  induction count with
  | zero => rfl
  | succ count ih =>
      have remembers := train_last strides calm fits (Nat.le_of_succ_le within)
      have decided := decide_latest (by rwa [train_requested]) calm fits (by omega) remembers
      rw [train.offers_succ, answers_append, answers_offer, ih (by omega), decided, List.range_succ,
        List.map_append]
      rfl

end Run

/-- **Of a train of events every n-th is delivered**, from the first one on, and
jitter of less than half a period makes no difference. The gaps that the gate
measures must stay, by a period, below the greatest time. -/
theorem every_nth_delivered (gate : Gate) (train : Train) (length : Nat)
    (known : 0 < train.producer) (calm : train.Calm length)
    (fits : train.Fits length (stride gate.requested train.producer) train.producer) :
    (gate.reset.answers (train.offers length) = (List.range length).map fun index =>
        if stride gate.requested train.producer ∣ index then .deliver else .decimated) ∧
      gate.reset.answers (train.offers length) = gate.reset.answers (train.steady.offers length) := by
  have steady : train.steady.Fits length (stride gate.requested train.producer)
      (train.producer / 2) := by
    intro index within last before near
    -- without the jitter a gap is longer by less than half a period
    have room := fits index within last before near
    have small := calm index within last (by omega)
    have bound := neg_abs_le (train.jitter index - train.jitter last)
    rw [train.time_sub (Nat.le_of_lt before)] at room
    rw [train.steady.time_sub (Nat.le_of_lt before)]
    show (index - last : Nat) * train.producer + (0 - 0) + train.producer / 2 ≤ maxTime
    omega
  have jittered : train.Fits length (stride gate.requested train.producer) (train.producer / 2) := by
    intro index within last before near
    have room := fits index within last before near
    omega
  have delivered := train_answers rfl calm jittered (Nat.le_refl length)
  have plain := train_answers rfl (train.steady_calm known length) steady (Nat.le_refl length)
  exact ⟨delivered, delivered.trans plain.symm⟩

/-- A producer of an odd period whose events come early and late in turn. -/
def unsteady : Train := ⟨-7, 5, fun index => if index % 2 = 0 then 1 else -1⟩

/-- Two and a half periods are requested, and the third event is the next one. -/
theorem unsteady_delivered : 0 < unsteady.producer ∧ unsteady.Calm 8 ∧
    stride 12 unsteady.producer = 3 ∧ unsteady.Fits 8 3 unsteady.producer ∧
    (⟨12, some 100⟩ : Gate).reset.answers (unsteady.offers 8) =
      [.deliver, .decimated, .decimated, .deliver, .decimated, .decimated, .deliver, .decimated] ∧
    (⟨12, some 100⟩ : Gate).reset.answers (unsteady.offers 8) =
      (⟨12, some 100⟩ : Gate).reset.answers (unsteady.steady.offers 8) := by
  have calm : unsteady.Calm 8 := by unfold Train.Calm; decide
  have third : stride 12 unsteady.producer = 3 := by
    have known : 0 < unsteady.producer := by decide
    have enough : stride 12 unsteady.producer ≤ 3 := (stride_le_iff 12 known (by decide)).2 (by decide)
    have few : ¬ stride 12 unsteady.producer ≤ 2 :=
      mt (stride_le_iff 12 known (by decide)).1 (by decide)
    omega
  have fits : unsteady.Fits 8 3 unsteady.producer := by unfold Train.Fits; decide
  have delivered := every_nth_delivered ⟨12, some 100⟩ unsteady 8 (by decide) calm (third ▸ fits)
  rw [third] at delivered
  exact ⟨by decide, calm, third, fits, delivered.1, delivered.2⟩

end FusionSensors.Gate
