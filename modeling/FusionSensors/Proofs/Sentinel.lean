/-
# FusionSensors.Proofs.Sentinel -- the failure value is unambiguous

A call tells its host of a failure twice: by a value, `-1` or the null text, and
by an exception. `Call.fault` lists what a call can meet, given the hub behind it
and the host that makes it. Main statement, `failure_signalled`: where exceptions
can be raised, a call answers its failure value exactly if it raises the exception
of the fault that it meets, and any other value is one that the host cannot take
for a failure: a positive period, a count of cycles, a text.

The count is a number of 32 bits, which is why a plain hub is needed, and a copy
of an array that was interrupted by an exception of the host's own is apart: there
the failure value is answered and nothing raised.
-/
import FusionSensors.Proofs.Calls

namespace FusionSensors

set_option autoImplicit false

/-! ## Answers of the hub -/

namespace Hub

variable {hub : Hub}

/-- Only a handle that no sensor has is refused. -/
theorem switch_reply (positive : 0 < hub.defaultPeriod) (now handle : Int) (on : Bool) :
    (hub.perform now (.switch handle on)).value.2 =
      if (hub.node? handle).isSome then .done else .refused (.unknownHandle handle) := by
  cases found : hub.node? handle with
  | none =>
      rw [perform, settle_error (switch_unknown found on now)]
      rfl
  | some node =>
      obtain ⟨logged, started, -⟩ := started_readied positive on now node
      have switched := switch_found found on now
      rw [started] at switched
      rw [perform, settle_ok switched]
      rfl

theorem setPeriod_reply (now handle period : Int) :
    (hub.perform now (.setPeriod handle period)).value.2 =
      match hub.node? handle with
      | none => .refused (.unknownHandle handle)
      | some node =>
        if period ≤ 0 then .refused (.invalidPeriod period)
        else .period (node.descriptor.clampPeriod period) := by
  cases found : hub.node? handle with
  | none => rw [perform, settle_error (setPeriod_unknown found period)]
  | some node =>
      have paced := setPeriod_found found period
      dsimp only
      split
      · rename_i invalid
        rw [Node.setPeriod, if_pos invalid] at paced
        rw [perform, settle_error paced]
      · rename_i valid
        obtain ⟨set, accepted, value⟩ := node.setPeriod_pos (Int.not_le.1 valid)
        rw [accepted] at paced
        rw [perform, settle_ok paced, Logged.value_map, value]

/-- The pipe is read, so a mark is refused only for want of room. -/
theorem flush_reply (reading : hub.pipe.readEnds ≠ 0) (now handle : Int) :
    (hub.perform now (.flush handle)).value.2 =
      match hub.node? handle with
      | none => .refused (.unknownHandle handle)
      | some node =>
        if node.isEnabled then
          if hub.pipe.capacity ≤ hub.pipe.queue.length then .refused .pipeFull else .done
        else .refused (.notEnabled handle) := by
  cases found : hub.node? handle with
  | none =>
      rw [perform, flush_unknown found, Except.map, settle_error rfl]
  | some node =>
      obtain ⟨-, rfl⟩ := node?_some found
      rw [perform, flush_found found, Pipe.write, if_neg reading]
      dsimp only
      split
      · split <;> rfl
      · rfl

end Hub

namespace Binding

/-! ## What a call meets -/

/-- The first thing that goes wrong with a call, if anything does. -/
def Call.fault (hub : Hub) (host : Host) : Call → Option Fault
  | .init argument =>
    match configOf argument with
    | .error fault => some fault
    | .ok _ => none
  | .push array _ _ =>
    match valuesOf array with
    | .error fault => some fault
    | .ok _ => none
  | .enable handle _ => if (hub.node? handle).isSome then none else some (.unknownHandle handle)
  | .setPeriod handle period =>
    match hub.node? handle with
    | none => some (.unknownHandle handle)
    | some _ => if period ≤ 0 then some (.invalidPeriod period) else none
  | .flush handle =>
    match hub.node? handle with
    | none => some (.unknownHandle handle)
    | some node =>
      if node.isEnabled then
        if hub.pipe.capacity ≤ hub.pipe.queue.length then some .pipeFull else none
      else some (.notEnabled handle)
  | .poll max =>
    if max < 0 then some (.invalidParameters (.negativeMaximum max))
    else if host.textFails then some (.host .textNotMade) else none
  | .list => if host.textFails then some (.host .textNotMade) else none
  | .time => none

/-- The values that a call answers when nothing goes wrong. -/
def Call.Succeeds (hub : Hub) : Call → Answer → Prop
  | .init _, answer | .enable .., answer | .flush _, answer => answer = .number 0
  | .setPeriod .., answer => ∃ period, 0 < period ∧ answer = .number period
  | .push .., answer => ∃ cycles : Nat, cycles ≤ hub.nodes.length ∧ answer = .number cycles
  | .poll _, answer | .list, answer => ∃ text, answer = .text text
  | .time, answer => ∃ reading, answer = .number reading

/-- A copy of an array that was interrupted by an exception of the host's own. -/
def Call.Interrupted : Call → Prop
  | .push array _ _ => valuesOf array = .ok none
  | _ => False

/-- A call tells its host exactly what went wrong. -/
structure Signals (hub : Hub) (host : Host) (call : Call) (outcome : Outcome) : Prop where
  /-- the failure value stands for an exception, and the other way round -/
  signalled : outcome.answer = call.failure ↔ outcome.raised.isSome = true
  /-- the exception is that of the fault that the call meets -/
  raised : outcome.raised = (call.fault hub host).map fun fault =>
    ⟨fault.exceptionClass, fault.message⟩
  answered : outcome.raised = none → call.Succeeds hub outcome.answer

variable {hub : Hub} {host : Host} {call : Call}

theorem Call.Succeeds.ne_failure {answer : Answer} (timeless : call ≠ .time)
    (succeeds : call.Succeeds hub answer) : answer ≠ call.failure := by
  cases call with
  | init | enable | flush =>
      rw [show answer = .number 0 from succeeds]
      exact nofun
  | setPeriod handle period =>
      obtain ⟨effective, positive, rfl⟩ := succeeds
      intro same
      cases same
      omega
  | push array timestamp period =>
      obtain ⟨cycles, -, rfl⟩ := succeeds
      intro same
      injection same with same
      omega
  | poll | list =>
      obtain ⟨text, rfl⟩ := succeeds
      exact nofun
  | time => exact absurd rfl timeless

theorem Signals.refused (throws : host.throwFails = false) {fault : Fault}
    (met : call.fault hub host = some fault) : Signals hub host call (host.refuse call.failure fault) := by
  have outcome : host.refuse call.failure fault =
      ⟨call.failure, some ⟨fault.exceptionClass, fault.message⟩⟩ := by
    rw [Host.refuse, Host.raise, throws]
    rfl
  rw [outcome]
  exact ⟨iff_of_true rfl rfl, by rw [met]; rfl, nofun⟩

theorem Signals.succeeded (timeless : call ≠ .time) (unmet : call.fault hub host = none)
    {answer : Answer} (succeeds : call.Succeeds hub answer) :
    Signals hub host call ⟨answer, none⟩ :=
  ⟨iff_of_false (succeeds.ne_failure timeless) (by simp), by rw [unmet]; rfl, fun _ => succeeds⟩

/-- A text is made or the call fails for it. -/
theorem Signals.textual (throws : host.throwFails = false) (timeless : call ≠ .time)
    (null : call.failure = .null)
    (met : call.fault hub host = if host.textFails then some (.host .textNotMade) else none)
    (succeeds : ∀ text, call.Succeeds hub (.text text)) (text : String) :
    Signals hub host call (host.textOutcome (.ok text)) := by
  rw [Host.textOutcome]
  cases fails : host.textFails with
  | true =>
      rw [fails] at met
      exact null ▸ .refused throws met
  | false =>
      rw [fails] at met
      exact .succeeded timeless met (succeeds text)

/-- A number of cycles that is small enough is read as it is. -/
theorem int32_eq {count : Nat} (few : count < 2147483648) : int32 count = count :=
  Int.bmod_eq_of_le (by omega) (by omega)

/-- A hub that is asked a command tells by its answer what the call meets. -/
theorem Signals.asked (throws : host.throwFails = false) (plain : hub.Plain) (now : Int)
    {command : Hub.Command} (asks : call.command = some command) :
    Signals hub host call (host.handOver call.failure (hub.perform now command).value.2) := by
  have timeless : call ≠ .time := by
    rintro rfl
    cases asks
  cases call with
  | init | list | time => cases asks
  | enable handle on =>
      cases asks
      rw [Hub.switch_reply plain.fit.sound.period]
      split
      · rename_i known
        exact .succeeded timeless (if_pos known) rfl
      · rename_i unknown
        exact .refused throws (if_neg unknown)
  | setPeriod handle period =>
      cases asks
      rw [Hub.setPeriod_reply]
      cases found : hub.node? handle with
      | none => exact .refused throws (by rw [Call.fault, found])
      | some node =>
          dsimp only
          split
          · rename_i invalid
            exact .refused throws (by rw [Call.fault, found]; exact if_pos invalid)
          · rename_i valid
            refine .succeeded timeless (by rw [Call.fault, found]; exact if_neg valid) ⟨_, ?_, rfl⟩
            exact node.descriptor.clampPeriod_pos (Int.not_le.1 valid)
  | flush handle =>
      cases asks
      rw [Hub.flush_reply plain.fit.sound.pipe.reading]
      cases found : hub.node? handle with
      | none => exact .refused throws (by rw [Call.fault, found])
      | some node =>
          dsimp only
          split
          · rename_i enabled
            split
            · rename_i full
              exact .refused throws (by simp [Call.fault, found, enabled, full])
            · rename_i room
              exact .succeeded timeless (by simp [Call.fault, found, enabled, room]) rfl
          · rename_i disabled
            exact .refused throws (by simp [Call.fault, found, disabled])
  | push array timestamp period =>
      obtain ⟨values, copied, rfl⟩ := Call.push_asks asks
      have least := plain.cycles .accelGyroFusion ⟨.ofList values, timestamp, period⟩
      have few := plain.few
      rw [Hub.perform, Logged.value_map, Host.handOver, int32_eq (Nat.lt_of_le_of_lt least few)]
      exact .succeeded timeless (by rw [Call.fault, copied]) ⟨_, least, rfl⟩
  | poll max =>
      obtain ⟨nonnegative, rfl⟩ := Call.poll_asks asks
      exact .textual throws timeless rfl (if_neg nonnegative) (fun text => ⟨text, rfl⟩) _

/-- **A call signals its failures exactly**, whatever the configuration, if
exceptions can be raised and the copy of an array was not interrupted. -/
theorem failure_signalled {binding : Binding} (reachable : binding.Reachable) (host : Host)
    (throws : host.throwFails = false) (now : Int) (call : Call) (timeless : call ≠ .time)
    (finished : ¬ call.Interrupted) :
    ∃ hub, binding.held = some hub ∧
      Signals hub host call (binding.perform host now call).value.2 := by
  obtain ⟨hub, found⟩ := binding.exists_held
  obtain ⟨after, -, effect⟩ := perform_effect found host now call
  refine ⟨hub, found, ?_⟩
  generalize (binding.perform host now call).value.2 = outcome at effect ⊢
  cases effect with
  | asked asks => exact .asked throws (reachable.plain found) now asks
  | installed read built => exact .succeeded timeless (by rw [Call.fault, read]) rfl
  | unread unread => exact .refused throws (by rw [Call.fault, unread])
  | uncopied copy => exact .refused throws (by rw [Call.fault, copy])
  | interrupted copy => exact absurd copy finished
  | negative negative => exact .refused throws (if_pos negative)
  | listed => exact .textual throws timeless rfl rfl (fun text => ⟨text, rfl⟩) _
  | timed => exact absurd rfl timeless

/-- A configuration with delay limits the wrong way round. -/
def invertedLimits : TextArgument :=
  .text "\x7b\"fusion\":\x7b\"min_delay_us\":2500,\"max_delay_us\":1\x7d\x7d"

/-- A process that was initialised with them. -/
def invertedProcess : Binding :=
  fresh.run [{ call := .init invertedLimits }]

theorem invertedProcess_reachable : invertedProcess.Reachable := by
  refine Reachable.run .fresh ?_
  intro request listed
  rw [List.mem_singleton] at listed
  subst listed
  intro config read
  have sensors : (configOf invertedLimits).map (·.sensors.length) = .ok 3 := by decide +kernel
  rw [read] at sensors
  have few : config.sensors.length = 3 := Except.ok.inj sensors
  omega

/-- A period is brought down to the largest delay and is still no failure value; a
list without a text is one. -/
theorem invertedProcess_signalled : invertedProcess.Reachable ∧
    (∃ hub, invertedProcess.held = some hub ∧ Signals hub {} (.setPeriod 2 5000000)
      (invertedProcess.perform {} 0 (.setPeriod 2 5000000)).value.2) ∧
    (invertedProcess.perform {} 0 (.setPeriod 2 5000000)).value.2 = ⟨.number 1000, none⟩ ∧
    (∃ hub, invertedProcess.held = some hub ∧ Signals hub { textFails := true } .list
      (invertedProcess.perform { textFails := true } 0 .list).value.2) ∧
    (invertedProcess.perform { textFails := true } 0 .list).value.2 = ⟨.null,
      some ⟨"java/lang/RuntimeException", "JNI error: Failed to create Java string"⟩⟩ := by
  have reachable := invertedProcess_reachable
  exact ⟨reachable, failure_signalled reachable {} rfl 0 (.setPeriod 2 5000000) nofun id,
    by decide +kernel, failure_signalled reachable { textFails := true } rfl 0 .list nofun id,
    by decide +kernel⟩

end Binding

end FusionSensors
