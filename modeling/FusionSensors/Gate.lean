/-
# FusionSensors.Gate -- pacing events to a requested period

A gate lets an event through when it is due. It measures the time since the
last event that went through, in whole periods of the producer and rounded to
the nearest, so that jitter of the producer does not skip an event that is
due; an event that is not newer than the last one is stale.
-/
namespace FusionSensors

set_option autoImplicit false

/-- The requested period, and the time of the last event that went through. -/
structure Gate where
  requested : Int := 0
  last : Option Int := none
  deriving DecidableEq, Repr

/-- What a gate says of an event. -/
inductive Gate.Decision where
  | deliver
  | decimated
  | stale
  deriving DecidableEq, Repr

namespace Gate

/-- The greatest time; sums and products that exceed it stay at it. -/
def maxTime : Int := 9223372036854775807

/-- The time from `last` to `timestamp` as a number of 64 bits, which wraps around
where they are too far apart. -/
def elapsed (last timestamp : Int) : Int := Int.bmod (timestamp - last) 18446744073709551616

/-- A gap between two events in whole periods of the producer, rounded to the
nearest; the gap itself if the producer names no period. -/
def snapped (gap producer : Int) : Int :=
  if producer ≤ 0 then gap
  else min ((min (gap + producer / 2) maxTime).tdiv producer * producer) maxTime

/-- Changes the period and keeps the history, so that the next event is still
measured from the last one. -/
def request (gate : Gate) (period : Int) : Gate := { gate with requested := period }

/-- Forgets the history and keeps the period. -/
def reset (gate : Gate) : Gate := { gate with last := none }

/-- What the gate says of an event at `timestamp`, from a producer that runs at
period `producer`. -/
def decide (gate : Gate) (timestamp producer : Int) : Decision :=
  match gate.last with
  | none => .deliver
  | some last =>
    if timestamp ≤ last then .stale
    else if snapped (elapsed last timestamp) producer < gate.requested then .decimated
    else .deliver

/-- Offers an event: one that goes through becomes the last one. -/
def offer (gate : Gate) (timestamp producer : Int) : Decision × Gate :=
  match gate.decide timestamp producer with
  | .deliver => (.deliver, { gate with last := some timestamp })
  | decision => (decision, gate)

end Gate

end FusionSensors
