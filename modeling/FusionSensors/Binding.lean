/-
# FusionSensors.Binding -- one hub for a Java host

A host process holds one hub and reaches it by calls with numbers, arrays and
texts. The first call that needs a hub builds the one of the default
configuration; `init` replaces it. A call answers a number or a text. A call
that is refused answers its failure value, `-1` or the null text, and raises
an exception in the host.

What the host does wrong is part of a call: arguments that are null or of
another class, a copy that fails, a text that cannot be made, an exception
that cannot be raised.
-/
import FusionSensors.Hub.Setup

namespace FusionSensors

set_option autoImplicit false

/-- The state behind the calls. -/
structure Binding where
  hub : Option Hub
  /-- the clock starts when it is first read -/
  clockStarted : Bool
  deriving DecidableEq, Repr

namespace Binding

/-- The state of a new process. -/
def fresh : Binding := ⟨none, false⟩

/-! ## What the host gives and gets -/

/-- What fails in the host when a call hands something back. -/
structure Host where
  /-- no exception can be raised, as while another one is pending -/
  throwFails : Bool := false
  /-- no text can be made -/
  textFails : Bool := false
  deriving DecidableEq, Repr

/-- An argument that should be a text or null. -/
inductive TextArgument where
  | null
  | text (value : String)
  | otherClass
  /-- a text whose characters the host does not hand over -/
  | unread (cause : HostFault)
  deriving DecidableEq, Repr

/-- An argument that should be an array of numbers. An array tells its length
before its values are copied, and the copy may fail with an exception of the
host's own. -/
inductive ArrayArgument where
  | null
  | array (length : Int) (values : Option (List Single))
  /-- an array whose copy fails without an exception -/
  | uncopied (length : Int) (cause : HostFault)
  deriving DecidableEq, Repr

/-- A call of the host. -/
inductive Call where
  | init (config : TextArgument)
  | push (values : ArrayArgument) (timestamp period : Int)
  | enable (handle : Int) (on : Nat)
  | setPeriod (handle period : Int)
  | flush (handle : Int)
  | poll (max : Int)
  | list
  | time
  deriving DecidableEq, Repr

/-- The value of a call. -/
inductive Answer where
  | number (value : Int)
  | text (value : String)
  | null
  deriving DecidableEq, Repr

/-- An exception in the host. -/
structure Exception where
  className : String
  message : String
  deriving DecidableEq, Repr

/-- The value of a call and the exception that it raised. -/
structure Outcome where
  answer : Answer
  raised : Option Exception
  deriving DecidableEq, Repr

/-- Raises the exception of a fault. -/
def Host.raise (host : Host) (fault : Fault) : Except Fault Exception :=
  if host.throwFails then .error (.host .notThrown) else .ok ⟨fault.exceptionClass, fault.message⟩

/-- The outcome of a refused call with its failure value. -/
def Host.refuse (host : Host) (failure : Answer) (fault : Fault) : Outcome :=
  ⟨failure, (host.raise fault).toOption⟩

/-! ## The hub behind the calls -/

/-- Starts the clock unless it runs. -/
def startClock (binding : Binding) : Logged Binding :=
  if binding.clockStarted then pure binding
  else do
    Logged.note .clockStarted
    pure { binding with clockStarted := true }

/-- Builds the hub of a configuration and puts it in place. -/
def install (binding : Binding) (config : Config) : Logged (Binding × Except Fault Hub) := do
  let binding ← binding.startClock
  match Hub.ofConfig config with
  | .error fault => pure (binding, .error fault)
  | .ok built => do
    let hub ← built
    pure ({ binding with hub := some hub }, .ok hub)

/-- The hub, built from the default configuration if there is none. -/
def current (binding : Binding) : Logged (Binding × Except Fault Hub) :=
  match binding.hub with
  | some hub => pure (binding, .ok hub)
  | none => binding.install {}

/-- Uses the hub; what is refused leaves it as it was. -/
def withHub {α : Type} (binding : Binding) (use : Hub → Except Fault (Logged (Hub × α))) :
    Logged (Binding × Except Fault α) := do
  let (binding, hub) ← binding.current
  match hub with
  | .error fault => pure (binding, .error fault)
  | .ok hub =>
    match use hub with
    | .error fault => pure (binding, .error fault)
    | .ok used => do
      let (hub, value) ← used
      pure ({ binding with hub := some hub }, .ok value)

/-! ## The calls -/

/-- The configuration that `init` is asked for. -/
def configOf : TextArgument → Except Fault Config
  | .null => .ok {}
  | .otherClass => .error (.host .callFailed)
  | .unread cause => .error (.host cause)
  | .text value => Config.ofText value

/-- Replaces the hub by that of a configuration. -/
def init (binding : Binding) (argument : TextArgument) : Logged (Binding × Except Fault Unit) :=
  match configOf argument with
  | .error fault => pure (binding, .error fault)
  | .ok config => do
    let (binding, hub) ← binding.install config
    match hub with
    | .error fault => pure (binding, .error fault)
    | .ok _ => do
      Logged.note (.bindingReady config.sensors.length)
      pure (binding, .ok ())

/-- The number of values to copy, no more than a sample holds. -/
def checkedLength (length : Int) : Except Fault Nat :=
  if length < 0 then .error (.invalidParameters .negativeLength)
  else if (Payload.capacity : Int) < length then
    .error (.invalidParameters (.tooManyValues length.toNat))
  else .ok length.toNat

/-- The values of an array argument, none if the copy failed with an exception. -/
def valuesOf : ArrayArgument → Except Fault (Option (List Single))
  | .null => .error (.host .nullArray)
  | .array length values => (checkedLength length).map fun count => values.map (List.take count)
  | .uncopied length cause => do
    let _ ← checkedLength length
    .error (.host cause)

/-- A count as a host reads it, a signed number of 32 bits. -/
def int32 (count : Nat) : Int := Int.bmod count 4294967296

/-- Hands a fused sample to the hub and answers how many cycles it ran. -/
def push (binding : Binding) (values : List Single) (timestamp period : Int) :
    Logged (Binding × Except Fault Int) :=
  match Sample.ofValues values timestamp period with
  | .error fault => pure (binding, .error fault)
  | .ok sample => binding.withHub fun hub => .ok do
    let (hub, cycles) ← hub.deliver .accelGyroFusion sample
    pure (hub, int32 cycles)

/-- Takes events out of the pipe, as a JSON list. -/
def poll (binding : Binding) (max : Int) : Logged (Binding × Except Fault String) :=
  if max < 0 then pure (binding, .error (.invalidParameters (.negativeMaximum max)))
  else binding.withHub fun hub =>
    let (events, hub) := hub.poll max.toNat
    .ok (pure (hub, (Json.Doc.list (events.map Event.schema.write)).line))

/-- The sensors of the hub, as a JSON list. -/
def list (binding : Binding) : Logged (Binding × Except Fault String) :=
  binding.withHub fun hub =>
    .ok (pure (hub, (Json.Doc.list (hub.descriptors.map Descriptor.schema.write)).line))

/-- The outcome of a call that answers a number. -/
def Host.numberOutcome (host : Host) : Except Fault Int → Outcome
  | .ok value => ⟨.number value, none⟩
  | .error fault => host.refuse (.number (-1)) fault

/-- The outcome of a call that answers a text. The text is made last: if that
fails, what the call did stays done. -/
def Host.textOutcome (host : Host) : Except Fault String → Outcome
  | .ok value =>
    if host.textFails then host.refuse .null (.host .textNotMade) else ⟨.text value, none⟩
  | .error fault => host.refuse .null fault

/-- Performs a call at a reading of the clock. -/
def perform (binding : Binding) (host : Host) (now : Int) (call : Call) :
    Logged (Binding × Outcome) :=
  match call with
  | .init config => do
    let (binding, result) ← binding.init config
    pure (binding, host.numberOutcome (result.map fun () => 0))
  | .push array timestamp period =>
    match valuesOf array with
    | .error fault => pure (binding, host.refuse (.number (-1)) fault)
    | .ok none => pure (binding, ⟨.number (-1), none⟩)
    | .ok (some values) => do
      let (binding, result) ← binding.push values timestamp period
      pure (binding, host.numberOutcome result)
  | .enable handle on => do
    let (binding, result) ← binding.withHub fun hub => do
      let switched ← hub.switch handle (on != 0) now
      return (·, 0) <$> switched
    pure (binding, host.numberOutcome result)
  | .setPeriod handle period => do
    let (binding, result) ← binding.withHub fun hub => hub.setPeriod handle period
    pure (binding, host.numberOutcome result)
  | .flush handle => do
    let (binding, result) ← binding.withHub fun hub => do
      return pure (← hub.flush handle now, 0)
    pure (binding, host.numberOutcome result)
  | .poll max => do
    let (binding, result) ← binding.poll max
    pure (binding, host.textOutcome result)
  | .list => do
    let (binding, result) ← binding.list
    pure (binding, host.textOutcome result)
  | .time => do
    let binding ← binding.startClock
    pure (binding, ⟨.number now, none⟩)

end Binding

end FusionSensors
