/-
# FusionSensors.Proofs.Serving -- calls that change a binding bit by bit

A call uses the hub that all calls share. Here it is served in place: the clock is
started, the first hub built and the hub changed one after the other, where a fault
leaves everything as it is at that moment, and only then is told to the host
(`Call.serve`). `serve_perform` says that this is what a call does.

Main statement, `failed_unchanged`: a call that answers its failure value leaves
the hub as it was, where one that was not built yet counts as the usual one, and an
`init` that succeeds puts the hub of its configuration in place. Polls are apart,
since a text that cannot be made comes after the events were taken.
-/
import FusionSensors.Proofs.Sentinel

namespace FusionSensors

set_option autoImplicit false

open InPlace (settled outcome_bind outcome_get)

namespace InPlace

variable {σ α : Type}

@[simp] theorem outcome_log (written : Logged α) (state : σ) :
    (log written).outcome state = (fun answer => (.ok answer, state)) <$> written := rfl

@[simp] theorem outcome_modify (f : σ → σ) (state : σ) :
    (modify f : InPlace σ Unit).outcome state = pure (.ok (), f state) := rfl

@[simp] theorem outcome_throw (fault : Fault) (state : σ) :
    (throw fault : InPlace σ α).outcome state = pure (.error fault, state) := rfl

end InPlace

namespace Binding

/-! ## The hub in place -/

/-- Starts the clock unless it runs. -/
def startClockInPlace : InPlace Binding Unit := do
  let binding ← get
  if binding.clockStarted then pure ()
  else
    .log (.note .clockStarted)
    modify fun binding => { binding with clockStarted := true }

/-- Builds the hub of a configuration, and puts it in place when it is complete. -/
def installInPlace (config : Config) : InPlace Binding Unit := do
  startClockInPlace
  match Hub.ofConfig config with
  | .error fault => throw fault
  | .ok built => do
    let hub ← .log built
    modify fun binding => { binding with hub := some hub }

/-- Work on the hub that is in place. -/
def onHub {α : Type} (work : InPlace Hub α) : InPlace Binding α :=
  ExceptT.mk fun binding =>
    match binding.hub with
    | some hub =>
      (fun (answer, after) => (answer, { binding with hub := some after })) <$> work.outcome hub
    | none => pure (.error (.internal "Sensor hub unavailable"), binding)

/-- Work on the hub, which is built first if there is none. -/
def withHubInPlace {α : Type} (work : InPlace Hub α) : InPlace Binding α := do
  let binding ← get
  if binding.hub.isNone then
    installInPlace {}
    onHub work
  else onHub work

theorem startClockInPlace_outcome (binding : Binding) :
    startClockInPlace.outcome binding = (fun after => (.ok (), after)) <$> binding.startClock := by
  rw [startClockInPlace, outcome_bind, outcome_get, pure_bind, startClock]
  dsimp only
  split <;> rfl

theorem installInPlace_outcome (binding : Binding) (config : Config) :
    (installInPlace config).outcome binding =
      (fun (after, hub) => (hub.map fun _ => (), after)) <$> binding.install config := by
  rw [installInPlace, outcome_bind, startClockInPlace_outcome, install]
  cases Hub.ofConfig config with
  | error fault => exact Logged.ext (by simp [Except.map]) (by simp)
  | ok built => exact Logged.ext (by simp [outcome_bind, Except.map]) (by simp [outcome_bind])

section Use

variable {α : Type} {binding : Binding} {hub : Hub}

/-- A use of the hub that is in place. -/
theorem withHub_placed (placed : binding.hub = some hub)
    (use : Hub → Except Fault (Logged (Hub × α))) :
    binding.withHub use = match use hub with
      | .error fault => pure (binding, .error fault)
      | .ok used => (fun (after, value) => ({ binding with hub := some after }, .ok value)) <$> used := by
  rw [withHub, current, placed]
  dsimp only
  rw [pure_bind]
  dsimp only
  cases use hub with
  | error fault => rfl
  | ok used => exact (map_eq_pure_bind _ used).symm

/-- A first use builds the hub and goes on with it. -/
theorem withHub_install (unbuilt : binding.hub = none)
    (use : Hub → Except Fault (Logged (Hub × α))) :
    binding.withHub use = binding.install {} >>= fun (later, _) => later.withHub use := by
  obtain ⟨logged, built, -⟩ := ofConfig_usual
  rw [withHub, current, unbuilt]
  refine Logged.bind_congr_value ?_
  rw [install_value built]
  dsimp only
  rw [withHub_placed rfl]
  cases use logged.value with
  | error fault => rfl
  | ok used => exact (map_eq_pure_bind _ used).symm

theorem onHub_outcome (placed : binding.hub = some hub) {work : InPlace Hub α}
    {use : Hub → Except Fault (Logged (Hub × α))} (same : work.outcome hub = settled hub (use hub)) :
    (onHub work).outcome binding =
      (fun (after, answer) => (answer, after)) <$> binding.withHub use := by
  obtain ⟨found, started⟩ := binding
  cases placed
  rw [withHub_placed rfl]
  show (fun (answer, after) => (answer, (⟨some after, started⟩ : Binding))) <$> work.outcome hub = _
  rw [same]
  cases use hub with
  | error fault => rfl
  | ok used => simp only [settled, Functor.map_map]

/-- Work on the hub that is all or nothing is a use of the hub. -/
theorem withHubInPlace_outcome (found : binding.held = some hub) {work : InPlace Hub α}
    {use : Hub → Except Fault (Logged (Hub × α))} (same : work.outcome hub = settled hub (use hub)) :
    (withHubInPlace work).outcome binding =
      (fun (after, answer) => (answer, after)) <$> binding.withHub use := by
  rw [withHubInPlace, outcome_bind, outcome_get, pure_bind]
  dsimp only
  cases placed : binding.hub with
  | some other =>
      rw [held, placed] at found
      cases found
      exact onHub_outcome placed same
  | none =>
      obtain ⟨logged, built, usual⟩ := ofConfig_usual
      rw [held, placed, usual] at found
      cases found
      show (installInPlace {} >>= fun _ => onHub work).outcome binding = _
      rw [outcome_bind, installInPlace_outcome, withHub_install placed, map_bind, bind_map_left]
      refine Logged.bind_congr_value ?_
      rw [install_value built]
      exact onHub_outcome rfl same

end Use

/-! ## Calls in place -/

/-- Something that is known before anything is done. -/
def given {α : Type} : Except Fault α → InPlace Binding α
  | .ok value => pure value
  | .error fault => throw fault

/-- A call in place, up to its first fault. -/
def Call.inPlace (host : Host) (now : Int) : Call → InPlace Binding Outcome
  | .init argument => do
    let config ← given (configOf argument)
    installInPlace config
    .log (.note (.bindingReady config.sensors.length))
    return host.numberOutcome (.ok 0)
  | .push array timestamp period => do
    match ← given (valuesOf array) with
    | none => return ⟨.number (-1), none⟩
    | some values => do
      let sample ← given (Sample.ofValues values timestamp period)
      let cycles ← withHubInPlace (.total fun hub => do
        let (hub, cycles) ← hub.deliver .accelGyroFusion sample
        pure (hub, int32 cycles))
      return host.numberOutcome (.ok cycles)
  | .enable handle on => do
    let value ← withHubInPlace do
      Hub.switchInPlace handle (on != 0) now
      return 0
    return host.numberOutcome (.ok value)
  | .setPeriod handle period => do
    let effective ← withHubInPlace (Hub.setPeriodInPlace handle period)
    return host.numberOutcome (.ok effective)
  | .flush handle => do
    let value ← withHubInPlace do
      Hub.flushInPlace handle now
      return 0
    return host.numberOutcome (.ok value)
  | .poll max =>
    if max < 0 then throw (.invalidParameters (.negativeMaximum max))
    else do
      let text ← withHubInPlace (.total fun hub =>
        pure ((hub.poll max.toNat).2, page (hub.poll max.toNat).1))
      return host.textOutcome (.ok text)
  | .list => do
    let text ← withHubInPlace (.total fun hub => pure (hub, listing hub))
    return host.textOutcome (.ok text)
  | .time => do
    startClockInPlace
    return ⟨.number now, none⟩

/-- Serves a call in place: a fault becomes the failure value and an exception, and
what was done before it stays done. -/
def Call.serve (host : Host) (now : Int) (call : Call) (binding : Binding) :
    Logged (Binding × Outcome) :=
  (fun (answer, after) =>
    (after, match answer with
      | .ok outcome => outcome
      | .error fault => host.refuse call.failure fault)) <$> (call.inPlace host now).outcome binding

section Serve

variable {binding : Binding} {hub : Hub} (found : binding.held = some hub) {host : Host} {now : Int}
  {call : Call}

/-- Work that is all or nothing is so with a value to answer. -/
theorem outcome_zero {work : InPlace Hub Unit} {result : Except Fault (Logged Hub)}
    (same : work.outcome hub = settled hub (result.map ((·, ()) <$> ·))) :
    (do work; return 0 : InPlace Hub Int).outcome hub = settled hub (result.map ((·, 0) <$> ·)) := by
  rw [outcome_bind, same]
  cases result with
  | error fault => rfl
  | ok logged => exact Logged.ext (by simp [settled, Except.map]) (by simp [settled, Except.map])

include found

/-- A call that only works on the hub. -/
theorem serve_use {α : Type} {work : InPlace Hub α} {use : Hub → Except Fault (Logged (Hub × α))}
    (same : work.outcome hub = settled hub (use hub)) (answer : Except Fault α → Outcome)
    (refuses : ∀ fault, answer (.error fault) = host.refuse call.failure fault)
    (works : call.inPlace host now = do
      let value ← withHubInPlace work
      return answer (.ok value)) :
    call.serve host now binding =
      binding.withHub use >>= fun (after, result) => pure (after, answer result) := by
  rw [Call.serve, works, outcome_bind, withHubInPlace_outcome found same, bind_map_left, map_bind]
  congr 1
  funext ended
  obtain ⟨after, result⟩ := ended
  cases result with
  | error fault => exact Logged.ext (by simp [refuses]) (by simp)
  | ok value => rfl

/-- A push copies its array before it finds the hub. -/
theorem serve_push (host : Host) (now : Int) (array : ArrayArgument) (timestamp period : Int) :
    (Call.push array timestamp period).serve host now binding =
      binding.perform host now (.push array timestamp period) := by
  cases copy : valuesOf array with
  | error fault =>
      rw [Call.serve, Call.inPlace, perform, copy]
      rfl
  | ok values =>
      cases values with
      | none =>
          rw [Call.serve, Call.inPlace, perform, copy]
          rfl
      | some values =>
          have works : (Call.push array timestamp period).inPlace host now = do
              let cycles ← withHubInPlace (.total fun hub => do
                let (hub, cycles) ← hub.deliver .accelGyroFusion ⟨.ofList values, timestamp, period⟩
                pure (hub, int32 cycles))
              return host.numberOutcome (.ok cycles) := by
            simp only [Call.inPlace, copy, given, ofValues_copied copy, pure_bind]
          rw [perform, copy]
          simp only [push, ofValues_copied copy]
          exact serve_use found rfl host.numberOutcome (fun _ => rfl) works

/-- A poll checks its maximum before it finds the hub. -/
theorem serve_poll (host : Host) (now max : Int) :
    (Call.poll max).serve host now binding = binding.perform host now (.poll max) := by
  by_cases negative : max < 0
  · rw [Call.serve, Call.inPlace, if_pos negative, perform, poll, if_pos negative]
    rfl
  · have drained : (InPlace.total fun hub =>
        pure ((hub.poll max.toNat).2, page (hub.poll max.toNat).1)).outcome hub =
      settled hub (.ok (pure ((hub.poll max.toNat).2, page (hub.poll max.toNat).1))) := rfl
    rw [perform, poll, if_neg negative]
    exact serve_use found drained host.textOutcome (fun _ => rfl) (if_neg negative)

omit found in
/-- An `init` reads its configuration before anything is built. -/
theorem serve_init (host : Host) (now : Int) (argument : TextArgument) :
    (Call.init argument).serve host now binding = binding.perform host now (.init argument) := by
  cases read : configOf argument with
  | error fault =>
      rw [Call.serve, Call.inPlace, perform, init, read]
      rfl
  | ok config =>
      obtain ⟨logged, built, -⟩ := Hub.ofConfig_accepts (configOf_valid read)
      have works : (Call.init argument).inPlace host now = do
          installInPlace config
          .log (.note (.bindingReady config.sensors.length))
          return host.numberOutcome (.ok 0) := by
        simp only [Call.inPlace, read, given, pure_bind]
      rw [Call.serve, works, perform, init, read]
      -- binds stay binds, since `outcome_bind` is about them
      refine Logged.ext ?_ ?_ <;>
        simp [-bind_pure_comp, outcome_bind, installInPlace_outcome, install_value built, Except.map]

/-- **Serving a call in place is performing it.** -/
theorem serve_perform (distinct : (hub.nodes.map Node.handle).Nodup) (host : Host) (now : Int)
    (call : Call) : call.serve host now binding = binding.perform host now call := by
  cases call with
  | init argument => exact serve_init host now argument
  | push array timestamp period => exact serve_push found host now array timestamp period
  | poll max => exact serve_poll found host now max
  | enable handle on =>
      have switched := outcome_zero (Hub.switchInPlace_outcome distinct handle (on != 0) now)
      exact serve_use found switched host.numberOutcome (fun _ => rfl) rfl
  | setPeriod handle period =>
      have paced := Hub.setPeriodInPlace_outcome distinct handle period
      exact serve_use found paced host.numberOutcome (fun _ => rfl) rfl
  | flush handle =>
      have flushed : (do Hub.flushInPlace handle now; return 0 : InPlace Hub Int).outcome hub =
          settled hub (do return pure (← hub.flush handle now, 0)) := by
        rw [outcome_zero (Hub.flushInPlace_outcome distinct handle now)]
        cases hub.flush handle now <;> rfl
      exact serve_use found flushed host.numberOutcome (fun _ => rfl) rfl
  | list =>
      have read : (InPlace.total fun hub => pure (hub, listing hub)).outcome hub =
        settled hub (.ok (pure (hub, listing hub))) := rfl
      exact serve_use found read host.textOutcome (fun _ => rfl) rfl
  | time =>
      rw [Call.serve, Call.inPlace, outcome_bind, startClockInPlace_outcome, perform]
      exact Logged.ext rfl (by simp)

end Serve

/-! ## Failures -/

/-- A failure value that does not stand for a missing text is that of a refusal. -/
theorem refused_of_failure {hub : Hub} (plain : hub.Plain) {call : Call} {command : Hub.Command}
    (asks : call.command = some command) (unpolled : ∀ max, call ≠ .poll max) {host : Host} {now : Int}
    (failed : (host.handOver call.failure (hub.perform now command).value.2).answer = call.failure) :
    ∃ fault, (hub.perform now command).value.2 = .refused fault := by
  have number : call.failure = .number (-1) := by
    cases call with
    | poll max => exact absurd rfl (unpolled max)
    | list => cases asks
    | init | push | enable | setPeriod | flush | time => rfl
  rw [number] at failed
  have few := plain.few
  have least := plain.cycles
  have effect := hub.perform_effect now command
  generalize (hub.perform now command).value.1 = after at effect
  generalize (hub.perform now command).value.2 = reply at effect failed ⊢
  cases effect with
  | refused command fault => exact ⟨fault, rfl⟩
  | registered | provided | switched | flushed => cases failed
  | @paced node handle period set found accepted =>
      obtain ⟨positive, value⟩ := Node.setPeriod_ok accepted
      rw [value] at failed
      injection failed with same
      have same : node.descriptor.clampPeriod period = -1 := same
      have effective := node.descriptor.clampPeriod_pos positive
      omega
  | delivered source sample =>
      injection failed with same
      rw [int32_eq (Nat.lt_of_le_of_lt (least source sample) few)] at same
      omega
  | polled count =>
      obtain ⟨max, poll, -⟩ := Call.command_poll asks
      exact absurd poll (unpolled max)

/-- The configuration that an argument of `init` gives: the default one if it is
null, and the one written there if it is a text. -/
inductive Gives : TextArgument → Config → Prop where
  | default : Gives .null {}
  | written {text : String} {config : Config} (read : Config.ofText text = .ok config) :
      Gives (.text text) config

theorem gives_of_configOf {argument : TextArgument} {config : Config}
    (read : configOf argument = .ok config) : Gives argument config := by
  cases argument with
  | null =>
      cases read
      exact .default
  | text value => exact .written read
  | otherClass | unread => cases read

/-- A call in place does what the call does, and all of it or nothing. -/
structure Intact (binding : Binding) (host : Host) (now : Int) (call : Call) : Prop where
  same : call.serve host now binding = binding.perform host now call
  /-- a call that answers its failure value leaves the hub as it was -/
  kept : (call.serve host now binding).value.2.answer = call.failure →
    (call.serve host now binding).value.1.held = binding.held
  /-- an `init` that succeeds puts the hub of its configuration in place -/
  replaced : ∀ argument, call = .init argument →
    (call.serve host now binding).value.2.answer ≠ call.failure →
      ∃ config logged, Gives argument config ∧ Hub.ofConfig config = .ok logged ∧
        (call.serve host now binding).value.1.hub = some logged.value

/-- **A call that fails leaves the hub as it was**, whatever its arguments and
whatever fails in the host. -/
theorem failed_unchanged {binding : Binding} (reachable : binding.Reachable) (host : Host) (now : Int)
    (call : Call) (unpolled : ∀ max, call ≠ .poll max) : Intact binding host now call := by
  obtain ⟨hub, found⟩ := binding.exists_held
  have plain := reachable.plain found
  have same := serve_perform found plain.fit.sound.handles host now call
  obtain ⟨after, left, effect⟩ := perform_effect found host now call
  constructor
  case same => exact same
  case kept =>
      rw [same, left, found]
      generalize (binding.perform host now call).value.2 = outcome at effect ⊢
      intro failed
      cases effect with
      | asked asks =>
          obtain ⟨fault, refused⟩ := refused_of_failure plain asks unpolled failed
          rw [Hub.perform_refused refused, Logged.value_pure]
      | installed read built => cases failed
      | unread | uncopied | interrupted | negative | listed | timed => rfl
  case replaced =>
      rintro argument rfl succeeded
      rw [same] at succeeded ⊢
      cases read : configOf argument with
      | error fault =>
          rw [perform, init, read] at succeeded
          exact absurd rfl succeeded
      | ok config =>
          obtain ⟨logged, built, -⟩ := Hub.ofConfig_accepts (configOf_valid read)
          refine ⟨config, logged, gives_of_configOf read, built, ?_⟩
          rw [perform, init, read]
          simp only [Logged.value_bind, Logged.value_pure, install_value built]

/-- A process with an enabled sensor and a flush mark in the queue. -/
def startedProcess : Binding :=
  fresh.run [{ call := .enable 1 1 }, { now := 7, call := .flush 1 }]

/-- Of two calls that fail, one finds no hub in place; an `init` replaces the hub. -/
theorem startedProcess_intact : startedProcess.Reachable ∧ Reachable fresh ∧
    Intact startedProcess { throwFails := true } 9 (.push (.array 17 none) 20 5) ∧
    ((Call.push (.array 17 none) 20 5).serve { throwFails := true } 9 startedProcess).value.2 =
      ⟨.number (-1), none⟩ ∧
    Intact fresh {} 9 (.setPeriod 1 0) ∧
    ((Call.setPeriod 1 0).serve {} 9 fresh).value.2 = ⟨.number (-1),
      some ⟨"java/lang/IllegalArgumentException", "Invalid pollrate: 0 ns"⟩⟩ ∧
    Intact startedProcess {} 9 (.init .null) ∧
    ((Call.init .null).serve {} 9 startedProcess).value.2 = ⟨.number 0, none⟩ := by
  have reachable : startedProcess.Reachable := Reachable.run .fresh (by simp [Call.Modest])
  exact ⟨reachable, .fresh, failed_unchanged reachable { throwFails := true } 9 _ nofun, by decide +kernel,
    failed_unchanged .fresh {} 9 _ nofun, by decide +kernel,
    failed_unchanged reachable {} 9 _ nofun, by decide +kernel⟩

end Binding

end FusionSensors
