/-
# FusionSensors.Proofs.Printing -- a replay that prints as it goes

A replay answers its lines in the end, so that one that fails has none to show.
Here it prints as it goes instead (`playInPlace`): the lines of a sample are on
the output before the next sample is delivered, and the counters of a sensor
are looked up when all is printed, which may be refused. Main statement,
`playInPlace_outcome`: both ways come to the same lines, notes and failures,
because a sensor that was enabled is still there when its counters are told.
-/
import FusionSensors.Proofs.Replaying

namespace FusionSensors

set_option autoImplicit false

namespace Replay

/-! ## Work that prints -/

/-- Work that prints lines and writes notes. What was printed before a failure
stays printed. -/
abbrev Printing := ExceptT Failure (StateT (List String) Logged)

namespace Printing

variable {α β : Type}

/-- The answer of work, and what is printed then. -/
def outcome (work : Printing α) (printed : List String) :
    Logged (Except Failure α × List String) :=
  (ExceptT.run work).run printed

/-- A step, which prints nothing. -/
def ofStep (work : Step α) : Printing α :=
  ExceptT.mk fun printed => (·, printed) <$> work.run

/-- Prints a line. -/
def line (text : String) : Printing Unit := modify (· ++ [text])

/-- A failure ends the work, and what is printed stays. -/
theorem outcome_bind (work : Printing α) (next : α → Printing β) (printed : List String) :
    (work >>= next).outcome printed = work.outcome printed >>= fun
      | (.ok answer, after) => (next answer).outcome after
      | (.error failure, after) => pure (.error failure, after) := by
  simp only [outcome, ExceptT.run_bind, StateT.run_bind]
  congr 1
  funext ended
  obtain ⟨answer, after⟩ := ended
  cases answer <;> rfl

theorem outcome_ofStep (work : Step α) (printed : List String) :
    (ofStep work).outcome printed = (·, printed) <$> work.run := rfl

/-- What comes of a step that answers its lines in the end. -/
def afterwards (printed : List String) :
    Except Failure (List String) → Except Failure Unit × List String
  | .ok lines => (.ok (), printed ++ lines)
  | .error failure => (.error failure, printed)

/-- Printing as one goes or in the end makes no difference to the step before. -/
theorem ofStep_bind {work : Step α} {next : α → Printing Unit} {other : α → Step (List String)}
    {printed : List String} (agree : ∀ answer, work.run.value = .ok answer →
      (next answer).outcome printed = afterwards printed <$> (other answer).run) :
    (ofStep work >>= next).outcome printed = afterwards printed <$> (work >>= other).run := by
  rw [outcome_bind, outcome_ofStep, ExceptT.run_bind, map_bind, bind_map_left]
  apply Logged.bind_congr_value
  cases done : work.run.value with
  | error failure => rfl
  | ok answer => exact agree answer done

end Printing

/-! ## A replay that prints as it goes -/

/-- Prints the lines of events. -/
def printEvents : List Event → Printing Unit
  | [] => pure ()
  | event :: rest => do
    Printing.line event.line
    printEvents rest

/-- Delivers samples, and prints the events of each before the next one. -/
def printSamples : List Sample → Hub → Printing Hub
  | [], hub => pure hub
  | sample :: rest, hub => do
    let (hub, _) ← Printing.ofStep (ExceptT.lift (hub.deliver .accelGyroFusion sample))
    let (events, hub) := hub.poll hub.pipe.queue.length
    printEvents events
    printSamples rest hub

/-- Notes what became of the events of each sensor; fails on a sensor that is
not there. -/
def tellStats (hub : Hub) : List Int → Printing Unit
  | [] => pure ()
  | handle :: rest => do
    let stats ← Printing.ofStep (step ((hub.stats handle).map pure))
    Printing.ofStep (ExceptT.lift (Logged.note
      (.replayStats handle stats.processed stats.delivered stats.decimated stats.dropped)))
    tellStats hub rest

/-- Runs a replay and prints as it goes. -/
def playInPlace (arguments : Arguments) (files : String → File) : Printing Unit := do
  let config ← Printing.ofStep (ExceptT.mk (pure (configFor arguments files)))
  let samples ← Printing.ofStep (ExceptT.mk (pure (samplesFor arguments files)))
  let built ← Printing.ofStep (step (Hub.ofConfig config))
  let handles := config.sensors.map LeafEntry.handle
  let ready ← Printing.ofStep (enableAll arguments.delay handles built)
  let hub ← printSamples samples ready
  let printed ← get
  let now := (samples.getLast?.map Sample.timestamp).getD 0
  Printing.ofStep (ExceptT.lift (Logged.note (.replayed samples.length printed.length now)))
  tellStats hub handles

theorem printEvents_outcome (events : List Event) (printed : List String) :
    (printEvents events).outcome printed = pure (.ok (), printed ++ events.map Event.line) := by
  induction events generalizing printed with
  | nil => rw [List.map_nil, List.append_nil]; rfl
  | cons event rest ih =>
      have one : (Printing.line event.line).outcome printed =
          pure (.ok (), printed ++ [event.line]) := rfl
      rw [printEvents, Printing.outcome_bind, one, pure_bind]
      show (printEvents rest).outcome (printed ++ [event.line]) = _
      rw [ih, List.append_assoc]
      rfl

/-- Samples are never refused, and their lines come one after the other. -/
theorem printSamples_outcome (samples : List Sample) (hub : Hub) (printed : List String) :
    (printSamples samples hub).outcome printed =
      (fun (hub, events) => (.ok hub, printed ++ events.map Event.line)) <$>
        replaySamples samples hub := by
  induction samples generalizing hub printed with
  | nil =>
      show pure (Except.ok hub, printed) = pure (Except.ok hub, printed ++ [])
      rw [List.append_nil]
  | cons sample rest ih =>
      have delivered : (Printing.ofStep (ExceptT.lift
          (hub.deliver .accelGyroFusion sample))).outcome printed =
          (fun answer => (.ok answer, printed)) <$> hub.deliver .accelGyroFusion sample := by
        simp [Printing.outcome_ofStep]
      rw [printSamples, Printing.outcome_bind, delivered, replaySamples, replaySample, map_bind]
      simp only [bind_map_left, bind_assoc, pure_bind]
      congr 1
      funext answer
      simp only [Printing.outcome_bind, printEvents_outcome, pure_bind, ih]
      simp [List.append_assoc]

/-- The counters of sensors that are there are told. -/
theorem tellStats_outcome {hub : Hub} {handles : List Int}
    (known : ∀ handle ∈ handles, handle ∈ hub.nodes.map Node.handle) (printed : List String) :
    (tellStats hub handles).outcome printed =
      (fun _ => (.ok (), printed)) <$> noteAllStats hub handles := by
  induction handles with
  | nil => rfl
  | cons handle rest ih =>
      obtain ⟨here, others⟩ := List.forall_mem_cons.1 known
      cases found : hub.node? handle with
      | none => exact absurd here (Hub.node?_eq_none.1 found)
      | some node =>
          have looked : hub.stats handle = .ok node.stats := by
            rw [Hub.stats, Hub.node_of_found found]
            rfl
          rw [tellStats, noteAllStats, noteStats, looked, map_bind]
          simp [Printing.outcome_bind, Printing.outcome_ofStep, Except.map, step, ih others]

/-! ## The sensors stay there -/

theorem replaySamples_handles (samples : List Sample) (hub : Hub) :
    (replaySamples samples hub).value.1.nodes.map Node.handle = hub.nodes.map Node.handle := by
  induction samples generalizing hub with
  | nil => rfl
  | cons sample rest ih =>
      refine (ih _).trans ?_
      show (hub.deliver .accelGyroFusion sample).value.1.nodes.map Node.handle = _
      exact hub.deliver_map Node.handle
        (fun node pipe sample => Node.handle_eq_of_bare (node.cycle_bare pipe sample)) _ sample

/-! ## Both ways are the same -/

/-- A step that goes on has succeeded. -/
theorem step_inv {α β : Type} {first : Step α} {next : α → Step β} {b : β}
    (done : (first >>= next).run.value = .ok b) :
    ∃ a, first.run.value = .ok a ∧ (next a).run.value = .ok b := by
  rw [ExceptT.run_bind, Logged.value_bind] at done
  cases answer : first.run.value with
  | error failure =>
      rw [answer] at done
      cases done
  | ok a =>
      rw [answer] at done
      exact ⟨a, rfl, done⟩

/-- If sensors were enabled, then at a positive period or at the default one. -/
theorem enableAll_asked {delay : Option Int} {handle : Int} {rest : List Int} {hub ready : Hub}
    (enabled : (enableAll delay (handle :: rest) hub).run.value = .ok ready) :
    ∀ period ∈ delay, 0 < period := by
  rintro period ⟨⟩
  rw [enableAll_cons] at enabled
  obtain ⟨paced, requested, -⟩ := step_inv enabled
  rw [request, ExceptT.run_map, Logged.value_map] at requested
  cases granted : hub.setPeriod handle period with
  | error fault =>
      rw [granted] at requested
      cases requested
  | ok logged =>
      obtain ⟨node, set, -, accepted, -⟩ := Hub.setPeriod_ok granted
      exact (Node.setPeriod_ok accepted).1

/-- The sensors of a configuration are there when they have been enabled. -/
theorem enabled_known {config : Config} {delay : Option Int} {logged : Logged Hub} {ready : Hub}
    (built : Hub.ofConfig config = .ok logged)
    (enabled : (enableAll delay (config.sensors.map LeafEntry.handle) logged.value).run.value =
      .ok ready) :
    ∀ handle ∈ config.sensors.map LeafEntry.handle, handle ∈ ready.nodes.map Node.handle := by
  cases sensors : config.sensors with
  | nil => simp
  | cons entry rest =>
      have asked : ∀ period ∈ delay, 0 < period := by
        rw [sensors, List.map_cons] at enabled
        exact enableAll_asked enabled
      obtain ⟨hub, done, inStep⟩ := enableAll_inStep asked built
      obtain rfl : ready = hub := Except.ok.inj (enabled.symm.trans done)
      rw [← sensors, Hub.map_eq_of_views (p := Node.handle) (q := LeafEntry.handle) ?_ inStep.seen]
      · exact fun handle listed => listed
      · intro node entry same
        exact Node.handle_eq_of_bare (congrArg Prod.fst same)

/-- Printing as one goes comes to the same as printing in the end. -/
theorem playInPlace_outcome (arguments : Arguments) (files : String → File) :
    (playInPlace arguments files).outcome [] =
      Printing.afterwards [] <$> (run arguments files).run := by
  rw [playInPlace, run]
  apply Printing.ofStep_bind
  intro config configured
  apply Printing.ofStep_bind
  intro samples recorded
  apply Printing.ofStep_bind
  intro hub done
  cases built : Hub.ofConfig config with
  | error fault =>
      rw [built] at done
      cases done
  | ok logged =>
      obtain rfl : logged.value = hub := by
        rw [step_value built] at done
        exact Except.ok.inj done
      apply Printing.ofStep_bind
      intro ready enabled
      have known := enabled_known built enabled
      rw [← replaySamples_handles samples ready] at known
      rw [Printing.outcome_bind, printSamples_outcome, ExceptT.run_bind, ExceptT.run_lift, map_bind,
        bind_map_left, bind_map_left]
      apply Logged.bind_congr_value
      have printed : (get : Printing (List String)).outcome
          ((replaySamples samples ready).value.2.map Event.line) =
          pure (.ok ((replaySamples samples ready).value.2.map Event.line),
            (replaySamples samples ready).value.2.map Event.line) := rfl
      simp only [List.nil_append, Printing.outcome_bind, printed, pure_bind,
        Printing.outcome_ofStep, tellStats_outcome known, List.length_map]
      refine Logged.ext rfl ?_
      simp

end Replay

end FusionSensors
