/-
# FusionSensors.Note -- what operations write to the log

A note is an occurrence worth logging, with a level and a wording. An
operation that may log answers `Logged α`: its value and its notes, oldest
first. An operation that is refused writes none.
-/
import FusionSensors.Fault

namespace FusionSensors

set_option autoImplicit false

/-- How loud a note is. -/
inductive Level where
  | trace
  | debug
  | info
  | warn
  | error
  deriving DecidableEq, Repr

def Level.name : Level → String
  | .trace => "TRACE"
  | .debug => "DEBUG"
  | .info => "INFO"
  | .warn => "WARN"
  | .error => "ERROR"

/-- An occurrence worth logging. -/
inductive Note where
  | clockStarted
  | resolved (name : String) (handle : Int) (provider : String)
  | switched (name : String) (handle : Int) (on : Bool)
  | periodSet (name : String) (handle : Int) (period : Int)
  | staleEvent (name : String) (timestamp : Int)
  | eventLost (name : String)
  | eventRefused (name : String) (fault : Fault)
  | registered (name : String) (handle : Int) (dotted : String)
  | hubReady (sensors capacity : Nat)
  | cascadeTooDeep (source : SensorKind)
  | bindingReady (sensors : Nat)
  | replayed (samples events : Nat) (now : Int)
  | replayStats (handle : Int) (processed delivered decimated dropped : Nat)
  deriving DecidableEq, Repr

namespace Note

def level : Note → Level
  | .staleEvent .. => .trace
  | .clockStarted | .resolved .. | .switched .. | .periodSet .. => .debug
  | .eventLost .. | .cascadeTooDeep .. => .warn
  | .eventRefused .. => .error
  | .registered .. | .hubReady .. | .bindingReady .. | .replayed .. | .replayStats .. => .info

/-- A sensor as log lines name it. -/
private def sensor (name : String) (handle : Int) : String :=
  name ++ " (handle " ++ shown handle ++ ")"

def text : Note → String
  | .clockStarted => "System clock initialised"
  | .resolved name handle provider => sensor name handle ++ " resolved against " ++ provider
  | .switched name handle on => sensor name handle ++ if on then " enabled" else " disabled"
  | .periodSet name handle period => sensor name handle ++ " period " ++ shown period ++ " ns"
  | .staleEvent name timestamp => name ++ ": stale event at " ++ shown timestamp ++ " ns"
  | .eventLost name => name ++ ": event pipe full, event dropped"
  | .eventRefused name fault => name ++ ": " ++ fault.message
  | .registered name handle dotted =>
    "Registered " ++ name ++ " (handle " ++ shown handle ++ ", " ++ dotted ++ ")"
  | .hubReady sensors capacity =>
    "Sensor hub ready: " ++ shown sensors ++ " software sensors, pipe capacity " ++ shown capacity
  | .cascadeTooDeep source => "Dropping forward from " ++ source.name ++ ": cascade too deep"
  | .bindingReady sensors => "Sensor HAL initialised (" ++ shown sensors ++ " sensors)"
  | .replayed samples events now =>
    "Replayed " ++ shown samples ++ " samples, wrote " ++ shown events ++ " events (clock at " ++
      shown now ++ " ns)"
  | .replayStats handle processed delivered decimated dropped =>
    "  handle " ++ shown handle ++ ": processed " ++ shown processed ++ ", delivered " ++
      shown delivered ++ ", decimated " ++ shown decimated ++ ", dropped " ++ shown dropped

/-- A log line. -/
def line (note : Note) : String := note.level.name ++ " " ++ note.text

end Note

/-- A value with the notes written on the way to it, oldest first. -/
structure Logged (α : Type) where
  value : α
  notes : List Note
  deriving Repr

namespace Logged

variable {α β : Type}

@[always_inline] instance : Monad Logged where
  pure a := ⟨a, []⟩
  bind first next :=
    let second := next first.value
    ⟨second.value, first.notes ++ second.notes⟩

/-- Writes one note. -/
def note (n : Note) : Logged Unit := ⟨(), [n]⟩

@[simp] theorem value_pure (a : α) : (pure a : Logged α).value = a := rfl

@[simp] theorem notes_pure (a : α) : (pure a : Logged α).notes = [] := rfl

@[simp] theorem value_bind (first : Logged α) (next : α → Logged β) :
    (first >>= next).value = (next first.value).value := rfl

@[simp] theorem notes_bind (first : Logged α) (next : α → Logged β) :
    (first >>= next).notes = first.notes ++ (next first.value).notes := rfl

@[simp] theorem value_map (f : α → β) (first : Logged α) : (f <$> first).value = f first.value :=
  rfl

@[simp] theorem notes_map (f : α → β) (first : Logged α) : (f <$> first).notes = first.notes :=
  List.append_nil first.notes

@[ext] theorem ext {first second : Logged α} (value : first.value = second.value)
    (notes : first.notes = second.notes) : first = second := by
  cases first; cases second; cases value; cases notes; rfl

/-- What follows a step need only agree at the value of the step. -/
theorem bind_congr_value {first : Logged α} {next other : α → Logged β}
    (same : next first.value = other first.value) : first >>= next = first >>= other := by
  ext
  · rw [value_bind, value_bind, same]
  · rw [notes_bind, notes_bind, same]

instance : LawfulMonad Logged := LawfulMonad.mk' Logged
  (by intro α first; ext <;> simp [Functor.map])
  (by intro α β a next; ext <;> simp)
  (by intro α β γ first next last; ext <;> simp)

end Logged

end FusionSensors
