/-
# FusionSensors.Replay.Run -- samples through a hub, events out

A replay builds the hub of a configuration, enables every sensor of it at time
zero, and delivers one sample after the other, taking all events out of the
pipe after each. Its output is one line of JSON for each event. Whatever can
fail fails before the first sample is delivered.
-/
import FusionSensors.Hub.Setup
import FusionSensors.Replay.Arguments
import FusionSensors.Replay.Record
import FusionSensors.Replay.Synthetic

namespace FusionSensors.Replay

set_option autoImplicit false

/-- A step of a replay: it may fail, and its notes are written in any case. -/
abbrev Step := ExceptT Failure Logged

/-- A hub operation as a step. -/
def step {α : Type} : Except Fault (Logged α) → Step α
  | .ok logged => ExceptT.lift logged
  | .error fault => throw (.refused fault)

/-! ## Preparation -/

/-- The configuration that a replay is asked for. -/
def configFor (arguments : Arguments) (files : String → File) : Except Failure Config :=
  match arguments.config with
  | none => .ok {}
  | some path => (Config.load path (files path)).mapError .refused

/-- The samples that a replay is asked for. -/
def samplesFor (arguments : Arguments) (files : String → File) : Except Failure (List Sample) :=
  match arguments.input, arguments.synthetic with
  | some path, _ => loadRecords path (files path)
  | none, some count => .ok (syntheticSamples count arguments.rate)
  | none, none => .error .nothingToReplay

/-- Enables sensors at time zero, after a period was requested if one is asked for. -/
def enableAll (delay : Option Int) : List Int → Hub → Step Hub
  | [], hub => pure hub
  | handle :: rest, hub => do
    let hub ←
      match delay with
      | none => pure hub
      | some period => Prod.fst <$> step (hub.setPeriod handle period)
    enableAll delay rest (← step (hub.switch handle true 0))

/-! ## The replay proper -/

/-- Delivers a sample and takes all events out of the pipe. -/
def replaySample (hub : Hub) (sample : Sample) : Logged (Hub × List Event) := do
  let (hub, _) ← hub.deliver .accelGyroFusion sample
  let (events, hub) := hub.poll hub.pipe.queue.length
  pure (hub, events)

/-- Replays samples; answers the hub and the events, in order. -/
def replaySamples : List Sample → Hub → Logged (Hub × List Event)
  | [], hub => pure (hub, [])
  | sample :: rest, hub => do
    let (hub, events) ← replaySample hub sample
    let (hub, later) ← replaySamples rest hub
    pure (hub, events ++ later)

/-- Notes what became of the events of a sensor. -/
def noteStats (hub : Hub) (handle : Int) : Logged Unit :=
  match hub.stats handle with
  | .ok stats =>
    Logged.note (.replayStats handle stats.processed stats.delivered stats.decimated stats.dropped)
  | .error _ => pure ()

/-- Notes what became of the events of each sensor. -/
def noteAllStats (hub : Hub) : List Int → Logged Unit
  | [] => pure ()
  | handle :: rest => do
    noteStats hub handle
    noteAllStats hub rest

/-- Runs a replay; answers its output, line by line. -/
def run (arguments : Arguments) (files : String → File) : Step (List String) := do
  let config ← ExceptT.mk (pure (configFor arguments files))
  let samples ← ExceptT.mk (pure (samplesFor arguments files))
  let built ← step (Hub.ofConfig config)
  let handles := config.sensors.map LeafEntry.handle
  let ready ← enableAll arguments.delay handles built
  let (hub, events) ← ExceptT.lift (replaySamples samples ready)
  let now := (samples.getLast?.map Sample.timestamp).getD 0
  ExceptT.lift (Logged.note (.replayed samples.length events.length now))
  ExceptT.lift (noteAllStats hub handles)
  return events.map Event.line

end FusionSensors.Replay
