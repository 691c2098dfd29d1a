/-
# FusionSensors.Proofs.Calls -- what a call does to the hub behind it

A binding holds a hub even before one was built: that of the default
configuration (`held`). A call that reads well asks one command of this hub
(`Call.command`), and `perform_command` says that it leaves what the command
leaves and hands over what the command answers. `Call.Effect` says once what any
call can do, the ones that ask nothing included, and `perform_effect` that a call
does nothing else.

Main statement, `Reachable.plain`: the hub behind a process is always a plain
one, made of leaves that are no more than a host can count.
-/
import FusionSensors.Binding
import FusionSensors.Proofs.Origin
import FusionSensors.Proofs.Refusal

namespace FusionSensors

set_option autoImplicit false

/-! ## Plain hubs -/

namespace Hub

/-- A hub of sensors that do not drive each other, no more than a signed number
of 32 bits counts. -/
structure Plain (hub : Hub) : Prop where
  fit : hub.Fit
  undriven : hub.Undriven
  few : hub.nodes.length < 2147483648

theorem length_hits (source : SensorKind) (roster : Roster) :
    (hits source roster).length ≤ roster.length := by
  induction roster with
  | nil => exact Nat.le_refl _
  | cons entry rest ih =>
      obtain ⟨node, active⟩ := entry
      rw [hits]
      split <;> simp only [List.length_cons, List.length_map] <;> omega

namespace Plain

variable {hub : Hub}

theorem perform (plain : hub.Plain) (now : Int) {command : Command} (controls : command.Controls) :
    (hub.perform now command).value.1.Plain := by
  have natures := (hub.perform_effect now command).bare plain.fit.sound.handles controls
  refine ⟨plain.fit.perform now controls, plain.undriven.of_bare natures.1, ?_⟩
  have length := congrArg List.length natures.1
  rw [List.length_map, List.length_map] at length
  rw [length]
  exact plain.few

/-- A delivery runs each sensor once at most. -/
theorem cycles (plain : hub.Plain) (source : SensorKind) (sample : Sample) :
    (hub.deliver source sample).value.2 ≤ hub.nodes.length := by
  have count : (hub.deliver source sample).value.2 = (hub.turns source sample).length :=
    (congrArg Prod.snd (hub.deliver_turns source sample plain.fit.forwards).1).symm
  have entries := congrArg List.length hub.roster_nodes
  rw [List.length_map] at entries
  rw [count, turns_undriven plain.undriven, List.length_map, ← entries]
  exact length_hits source hub.roster

end Plain

/-- The hub of a configuration is plain if there are not too many sensors. -/
theorem ofConfig_plain {config : Config} {logged : Logged Hub} (built : ofConfig config = .ok logged)
    (few : config.sensors.length < 2147483648) : logged.value.Plain := by
  obtain ⟨other, same, installs⟩ := ofConfig_installs (ofConfig_built built).1
  obtain rfl : other = logged := Except.ok.inj (same.symm.trans built)
  refine ⟨installs.fit, installs.undriven, ?_⟩
  rw [installs.nodes, List.length_map]
  exact few

end Hub

namespace Binding

/-! ## The hub that is held -/

/-- The hub of the default configuration. -/
def usual : Option Hub := (Hub.ofConfig {}).toOption.map Logged.value

/-- The hub behind a binding; one that was not built yet counts as the usual one. -/
def held (binding : Binding) : Option Hub := binding.hub.or usual

theorem ofConfig_usual : ∃ logged, Hub.ofConfig {} = .ok logged ∧ usual = some logged.value := by
  obtain ⟨logged, built, -⟩ := Hub.ofConfig_accepts (show Config.validate {} = .ok () by decide)
  exact ⟨logged, built, by rw [usual, built]; rfl⟩

theorem exists_held (binding : Binding) : ∃ hub, binding.held = some hub := by
  obtain ⟨logged, -, usual⟩ := ofConfig_usual
  cases placed : binding.hub with
  | none => exact ⟨logged.value, by rw [held, placed, usual]; rfl⟩
  | some hub => exact ⟨hub, by rw [held, placed]; rfl⟩

theorem startClock_hub (binding : Binding) : binding.startClock.value.hub = binding.hub := by
  unfold startClock
  split <;> rfl

section Use

variable {binding : Binding} {hub : Hub} (found : binding.held = some hub)

include found

/-- The hub that is held is the one that a call finds. -/
theorem current_value : ∃ later, binding.current.value = (later, .ok hub) ∧ later.held = some hub := by
  cases placed : binding.hub with
  | some other =>
      rw [held, placed] at found
      cases found
      refine ⟨binding, ?_, ?_⟩
      · rw [current, placed]
        rfl
      · rw [held, placed]
        rfl
  | none =>
      obtain ⟨logged, built, usual⟩ := ofConfig_usual
      rw [held, placed, usual] at found
      cases found
      refine ⟨{ binding.startClock.value with hub := some logged.value }, ?_, rfl⟩
      rw [current, placed, install, built]
      rfl

/-- A use of the hub leaves another one, or is refused and leaves it as it was. -/
theorem withHub_value {α : Type} (use : Hub → Except Fault (Logged (Hub × α))) :
    (binding.withHub use).value.1.held = some ((use hub).toOption.elim hub (·.value.1)) ∧
      (binding.withHub use).value.2 = (use hub).map (·.value.2) := by
  obtain ⟨later, current, still⟩ := current_value found
  rw [withHub, Logged.value_bind, current]
  cases used : use hub with
  | error fault =>
      simp only [used]
      exact ⟨still, rfl⟩
  | ok logged =>
      simp only [used]
      exact ⟨rfl, rfl⟩

end Use

/-! ## Calls that ask something of the hub -/

/-- The value that a refused call answers. -/
def Call.failure : Call → Answer
  | .poll _ | .list => .null
  | .init _ | .push .. | .enable .. | .setPeriod .. | .flush _ | .time => .number (-1)

/-- The command that a call asks of the hub, if it gets that far. -/
def Call.command : Call → Option Hub.Command
  | .push array timestamp period =>
    match valuesOf array with
    | .ok (some values) =>
      (Sample.ofValues values timestamp period).toOption.map (.deliver .accelGyroFusion)
    | _ => none
  | .enable handle on => some (.switch handle (on != 0))
  | .setPeriod handle period => some (.setPeriod handle period)
  | .flush handle => some (.flush handle)
  | .poll max => if max < 0 then none else some (.poll max.toNat)
  | .init _ | .list | .time => none

/-- Events as a JSON list. -/
def page (events : List Event) : String := (Json.Doc.list (events.map Event.schema.write)).line

/-- The sensors of a hub as a JSON list. -/
def listing (hub : Hub) : String :=
  (Json.Doc.list (hub.descriptors.map Descriptor.schema.write)).line

/-- How an answer of the hub is handed over. -/
def Host.handOver (host : Host) (failure : Answer) : Hub.Reply → Outcome
  | .done => ⟨.number 0, none⟩
  | .period effective => ⟨.number effective, none⟩
  | .cycles count => ⟨.number (int32 count), none⟩
  | .events list => host.textOutcome (.ok (page list))
  | .refused fault => host.refuse failure fault

theorem checkedLength_ok {length : Int} {count : Nat} (checked : checkedLength length = .ok count) :
    length = count ∧ count ≤ Payload.capacity := by
  unfold checkedLength at checked
  split at checked
  · cases checked
  · split at checked
    · cases checked
    · cases checked
      omega

/-- What an array is copied to is never too much for a sample. -/
theorem ofValues_copied {array : ArrayArgument} {values : List Single}
    (copied : valuesOf array = .ok (some values)) (timestamp period : Int) :
    Sample.ofValues values timestamp period = .ok ⟨.ofList values, timestamp, period⟩ := by
  have fits : values.length ≤ Payload.capacity := by
    cases array with
    | null => cases copied
    | uncopied length cause =>
        rw [valuesOf] at copied
        cases checked : checkedLength length <;> rw [checked] at copied <;> cases copied
    | array length given =>
        rw [valuesOf] at copied
        cases checked : checkedLength length with
        | error fault =>
            rw [checked] at copied
            cases copied
        | ok count =>
            rw [checked] at copied
            obtain ⟨list, -, rfl⟩ := Option.map_eq_some_iff.1 (Except.ok.inj copied)
            rw [List.length_take]
            exact Nat.le_trans (Nat.min_le_left _ _) (checkedLength_ok checked).2
  rw [Sample.ofValues, if_neg (by omega)]

/-- A push asks for the delivery of what was copied. -/
theorem Call.push_asks {array : ArrayArgument} {timestamp period : Int} {command : Hub.Command}
    (asks : (Call.push array timestamp period).command = some command) :
    ∃ values, valuesOf array = .ok (some values) ∧
      command = .deliver .accelGyroFusion ⟨.ofList values, timestamp, period⟩ := by
  rw [Call.command] at asks
  split at asks
  · rename_i values copied
    rw [ofValues_copied copied] at asks
    cases asks
    exact ⟨values, copied, rfl⟩
  · cases asks

theorem Call.poll_asks {max : Int} {command : Hub.Command}
    (asks : (Call.poll max).command = some command) : ¬ max < 0 ∧ command = .poll max.toNat := by
  rw [Call.command] at asks
  split at asks
  · cases asks
  · rename_i nonnegative
    cases asks
    exact ⟨nonnegative, rfl⟩

/-- A call asks for no new sensors. -/
theorem Call.command_controls {call : Call} {command : Hub.Command}
    (asks : call.command = some command) : command.Controls := by
  cases call with
  | push array timestamp period =>
      obtain ⟨values, -, rfl⟩ := Call.push_asks asks
      trivial
  | poll max =>
      obtain ⟨-, rfl⟩ := Call.poll_asks asks
      trivial
  | enable | setPeriod | flush =>
      cases asks
      trivial
  | init | list | time => cases asks

/-- Only a poll asks for events. -/
theorem Call.command_poll {call : Call} {count : Nat} (asks : call.command = some (.poll count)) :
    ∃ max, call = .poll max ∧ count = max.toNat := by
  cases call with
  | poll max =>
      obtain ⟨-, same⟩ := Call.poll_asks asks
      cases same
      exact ⟨max, rfl, rfl⟩
  | push array timestamp period =>
      obtain ⟨values, -, same⟩ := Call.push_asks asks
      cases same
  | enable | setPeriod | flush | init | list | time => cases asks

section Perform

variable {binding : Binding} {hub : Hub} (found : binding.held = some hub)

include found

/-- A call leaves what its command leaves of the hub, and hands over what it answers. -/
theorem perform_command {call : Call} {command : Hub.Command} (asks : call.command = some command)
    (host : Host) (now : Int) :
    (binding.perform host now call).value.1.held = some (hub.perform now command).value.1 ∧
      (binding.perform host now call).value.2 =
        host.handOver call.failure (hub.perform now command).value.2 := by
  cases call with
  | init | list | time => cases asks
  | enable handle on =>
      cases asks
      obtain ⟨left, answered⟩ := withHub_value found fun hub => do
        let switched ← hub.switch handle (on != 0) now
        return (·, (0 : Int)) <$> switched
      rw [perform, Logged.value_bind, Logged.value_pure, left, answered, Hub.perform]
      cases outcome : hub.switch handle (on != 0) now <;> exact ⟨rfl, rfl⟩
  | setPeriod handle period =>
      cases asks
      obtain ⟨left, answered⟩ := withHub_value found fun hub => hub.setPeriod handle period
      rw [perform, Logged.value_bind, Logged.value_pure, left, answered, Hub.perform]
      cases outcome : hub.setPeriod handle period <;> exact ⟨rfl, rfl⟩
  | flush handle =>
      cases asks
      obtain ⟨left, answered⟩ := withHub_value found fun hub => do
        return pure (← hub.flush handle now, (0 : Int))
      rw [perform, Logged.value_bind, Logged.value_pure, left, answered, Hub.perform]
      cases outcome : hub.flush handle now <;> exact ⟨rfl, rfl⟩
  | push array timestamp period =>
      obtain ⟨values, copied, rfl⟩ := Call.push_asks asks
      obtain ⟨left, answered⟩ := withHub_value found fun hub =>
        .ok (hub.deliver .accelGyroFusion ⟨.ofList values, timestamp, period⟩ >>= fun delivered =>
          pure (delivered.1, int32 delivered.2))
      have pushed : binding.push values timestamp period = binding.withHub fun hub =>
          .ok (hub.deliver .accelGyroFusion ⟨.ofList values, timestamp, period⟩ >>= fun delivered =>
            pure (delivered.1, int32 delivered.2)) := by
        rw [push, ofValues_copied copied]
      rw [perform, copied]
      dsimp only
      rw [pushed, Logged.value_bind, Logged.value_pure, left, answered, Hub.perform, Logged.value_map]
      exact ⟨rfl, by simp [Except.map, Host.numberOutcome, Host.handOver]⟩
  | poll max =>
      obtain ⟨nonnegative, rfl⟩ := Call.poll_asks asks
      obtain ⟨left, answered⟩ := withHub_value found fun hub =>
        .ok (pure ((hub.poll max.toNat).2, page (hub.poll max.toNat).1))
      have polled : binding.poll max = binding.withHub fun hub =>
          .ok (pure ((hub.poll max.toNat).2, page (hub.poll max.toNat).1)) := by
        rw [poll, if_neg nonnegative]
        rfl
      rw [perform, Logged.value_bind, Logged.value_pure, polled, left, answered]
      refine ⟨rfl, ?_⟩
      rw [Hub.perform, Logged.value_pure, Host.handOver]
      rfl

end Perform

/-! ## Every call -/

/-- What a call can do to the hub behind it, and what it comes to. -/
inductive Call.Effect (hub : Hub) (host : Host) (now : Int) : Call → Hub → Outcome → Prop
  | asked {call : Call} {command : Hub.Command} (asks : call.command = some command) :
      Effect hub host now call (hub.perform now command).value.1
        (host.handOver call.failure (hub.perform now command).value.2)
  | installed {argument : TextArgument} {config : Config} {logged : Logged Hub}
      (read : configOf argument = .ok config) (built : Hub.ofConfig config = .ok logged) :
      Effect hub host now (.init argument) logged.value ⟨.number 0, none⟩
  | unread {argument : TextArgument} {fault : Fault} (unread : configOf argument = .error fault) :
      Effect hub host now (.init argument) hub (host.refuse (.number (-1)) fault)
  | uncopied {array : ArrayArgument} {timestamp period : Int} {fault : Fault}
      (uncopied : valuesOf array = .error fault) :
      Effect hub host now (.push array timestamp period) hub (host.refuse (.number (-1)) fault)
  | interrupted {array : ArrayArgument} {timestamp period : Int}
      (interrupted : valuesOf array = .ok none) :
      Effect hub host now (.push array timestamp period) hub ⟨.number (-1), none⟩
  | negative {max : Int} (negative : max < 0) :
      Effect hub host now (.poll max) hub
        (host.refuse .null (.invalidParameters (.negativeMaximum max)))
  | listed : Effect hub host now .list hub (host.textOutcome (.ok (listing hub)))
  | timed : Effect hub host now .time hub ⟨.number now, none⟩

/-- A configuration that could be read is valid. -/
theorem configOf_valid {argument : TextArgument} {config : Config}
    (read : configOf argument = .ok config) : config.validate = .ok () := by
  cases argument with
  | null =>
      cases read
      decide
  | otherClass | unread => cases read
  | text value => exact (Hub.ofText_ok read).2

theorem install_value {config : Config} {logged : Logged Hub}
    (built : Hub.ofConfig config = .ok logged) (binding : Binding) :
    (binding.install config).value =
      ({ binding.startClock.value with hub := some logged.value }, .ok logged.value) := by
  rw [install, built]
  rfl

theorem perform_effect {binding : Binding} {hub : Hub} (found : binding.held = some hub) (host : Host)
    (now : Int) (call : Call) :
    ∃ after, (binding.perform host now call).value.1.held = some after ∧
      call.Effect hub host now after (binding.perform host now call).value.2 := by
  have asked : ∀ command, call.command = some command →
      ∃ after, (binding.perform host now call).value.1.held = some after ∧
        call.Effect hub host now after (binding.perform host now call).value.2 := by
    intro command asks
    obtain ⟨left, answered⟩ := perform_command found asks host now
    exact ⟨_, left, answered ▸ .asked asks⟩
  cases call with
  | enable | setPeriod | flush => exact asked _ rfl
  | init argument =>
      cases read : configOf argument with
      | error fault =>
          rw [perform, init, read]
          exact ⟨hub, found, .unread read⟩
      | ok config =>
          obtain ⟨logged, built, -⟩ := Hub.ofConfig_accepts (configOf_valid read)
          rw [perform, init, read]
          simp only [Logged.value_bind, install_value built]
          exact ⟨logged.value, rfl, .installed read built⟩
  | push array timestamp period =>
      cases copy : valuesOf array with
      | error fault =>
          rw [perform, copy]
          exact ⟨hub, found, .uncopied copy⟩
      | ok values =>
          cases values with
          | none =>
              rw [perform, copy]
              exact ⟨hub, found, .interrupted copy⟩
          | some values =>
              refine asked (.deliver .accelGyroFusion ⟨.ofList values, timestamp, period⟩) ?_
              rw [Call.command, copy]
              simp only [ofValues_copied copy]
              rfl
  | poll max =>
      by_cases negative : max < 0
      · rw [perform, poll, if_pos negative]
        exact ⟨hub, found, .negative negative⟩
      · exact asked _ (if_neg negative)
  | list =>
      obtain ⟨left, answered⟩ := withHub_value found fun hub => .ok (pure (hub, listing hub))
      have listed : binding.list = binding.withHub fun hub => .ok (pure (hub, listing hub)) := rfl
      rw [perform, Logged.value_bind, Logged.value_pure, listed, left, answered]
      exact ⟨hub, rfl, .listed⟩
  | time =>
      refine ⟨hub, ?_, .timed⟩
      rw [perform, Logged.value_bind, Logged.value_pure, held, startClock_hub]
      exact found

/-! ## Runs -/

/-- A call with what fails in the host meanwhile, at a reading of the clock. -/
structure Request where
  host : Host := {}
  now : Int := 0
  call : Call
  deriving DecidableEq, Repr

/-- The binding after a call. -/
def after (binding : Binding) (request : Request) : Binding :=
  (binding.perform request.host request.now request.call).value.1

/-- What a call comes to. -/
def outcome (binding : Binding) (request : Request) : Outcome :=
  (binding.perform request.host request.now request.call).value.2

/-- The binding after a sequence of calls. -/
def run (binding : Binding) (requests : List Request) : Binding := requests.foldl after binding

/-- A call does not ask for more sensors than a host can count. -/
def Call.Modest : Call → Prop
  | .init argument => ∀ config, configOf argument = .ok config → config.sensors.length < 2147483648
  | _ => True

/-- The bindings that calls lead to from the start of a process. -/
inductive Reachable : Binding → Prop
  | fresh : Reachable .fresh
  | after {binding : Binding} (reachable : Reachable binding) {request : Request}
      (modest : request.call.Modest) : Reachable (binding.after request)

theorem Reachable.run {binding : Binding} (reachable : Reachable binding) {requests : List Request}
    (modest : ∀ request ∈ requests, request.call.Modest) : Reachable (binding.run requests) := by
  induction requests generalizing binding with
  | nil => exact reachable
  | cons request rest ih =>
      exact ih (.after reachable (modest request List.mem_cons_self)) fun later within =>
        modest later (List.mem_cons_of_mem _ within)

theorem Call.Effect.plain {hub after : Hub} {host : Host} {now : Int} {call : Call}
    {outcome : Outcome} (effect : call.Effect hub host now after outcome) (plain : hub.Plain)
    (modest : call.Modest) : after.Plain := by
  cases effect with
  | asked asks => exact plain.perform now (Call.command_controls asks)
  | installed read built => exact Hub.ofConfig_plain built (modest _ read)
  | unread | uncopied | interrupted | negative | listed | timed => exact plain

/-- **The hub behind a process is a plain one.** -/
theorem Reachable.plain {binding : Binding} (reachable : Reachable binding) {hub : Hub}
    (found : binding.held = some hub) : hub.Plain := by
  induction reachable generalizing hub with
  | fresh =>
      obtain ⟨logged, built, usual⟩ := ofConfig_usual
      rw [held, Binding.fresh, usual] at found
      cases found
      exact Hub.ofConfig_plain built (by decide)
  | @after binding _ request modest ih =>
      obtain ⟨before, known⟩ := binding.exists_held
      obtain ⟨later, left, effect⟩ := perform_effect known request.host request.now request.call
      obtain rfl : later = hub := Option.some.inj (left.symm.trans found)
      exact effect.plain (ih known) modest

end Binding

end FusionSensors
