/-
# FusionSensors.Fault -- why an operation is refused

A fault is a cause; its wording is `Fault.message`. Causes that come from
outside, from a host or from an operator, carry the text they were stated in.
-/
import FusionSensors.Json.Defect
import FusionSensors.SensorKind

namespace FusionSensors

set_option autoImplicit false

/-- What is wrong with a dependency between sensors. -/
inductive DependencyFault where
  /-- another provider already gives this kind, named by its dotted name -/
  | alreadyProvided (dotted : String)
  | noTrigger (handle : Int)
  | ownOutput (handle : Int)
  | stated (text : String)
  deriving DecidableEq, Repr

/-- What is wrong with the arguments of a call. -/
inductive ParameterFault where
  /-- more values than a sample holds -/
  | tooManyValues (count : Nat)
  | negativeLength
  | negativeMaximum (max : Int)
  | stated (text : String)
  deriving DecidableEq, Repr

/-- What is wrong with a configuration. -/
inductive ConfigFault where
  | zeroCapacity
  | periodNotPositive
  | repeatedHandle (handle : Int)
  | malformed (defect : Json.Defect)
  | unreadable (path reason : String)
  | stated (text : String)
  deriving DecidableEq, Repr

/-- What went wrong in the host that a binding talks to. -/
inductive HostFault where
  | nullArray
  | callFailed
  | textNotMade
  | notThrown
  | stated (text : String)
  deriving DecidableEq, Repr

/-- Why an operation is refused. -/
inductive Fault where
  | unknownHandle (handle : Int)
  | duplicateHandle (handle : Int)
  | invalidDependency (cause : DependencyFault)
  | invalidPeriod (period : Int)
  | notEnabled (handle : Int)
  | pipeFull
  | pipeClosed
  | invalidParameters (cause : ParameterFault)
  | config (cause : ConfigFault)
  | host (cause : HostFault)
  | internal (text : String)
  deriving DecidableEq, Repr

/-! ## Wording -/

/-- A number in a message. -/
def shown (n : Int) : String := String.ofList (Decimal.integer n)

def DependencyFault.message : DependencyFault → String
  | .alreadyProvided dotted => "upstream " ++ dotted ++ " already registered"
  | .noTrigger handle => "sensor " ++ shown handle ++ " has no trigger dependency"
  | .ownOutput handle => "sensor " ++ shown handle ++ " depends on its own output"
  | .stated text => text

def ParameterFault.message : ParameterFault → String
  | .tooManyValues count =>
    "processed buffer holds " ++ shown count ++ " values, at most 16 allowed"
  | .negativeLength => "negative array length"
  | .negativeMaximum max => "max must be >= 0, got " ++ shown max
  | .stated text => text

def ConfigFault.message : ConfigFault → String
  | .zeroCapacity => "pipe_capacity must be positive"
  | .periodNotPositive => "default_pollrate_ns must be positive"
  | .repeatedHandle handle => "handle " ++ shown handle ++ " used more than once"
  | .malformed defect => defect.message
  | .unreadable path reason => path ++ ": " ++ reason
  | .stated text => text

def HostFault.message : HostFault → String
  | .nullArray => "Null pointer in get_array_length array argument"
  | .callFailed => "JNI call failed"
  | .textNotMade => "Failed to create Java string"
  | .notThrown => "Failed to throw exception"
  | .stated text => text

namespace Fault

/-- The wording of a fault. -/
def message : Fault → String
  | .unknownHandle handle => "Unknown sensor handle: " ++ shown handle
  | .duplicateHandle handle => "Sensor handle " ++ shown handle ++ " already registered"
  | .invalidDependency cause => "Invalid dependency: " ++ cause.message
  | .invalidPeriod period => "Invalid pollrate: " ++ shown period ++ " ns"
  | .notEnabled handle => "Sensor " ++ shown handle ++ " is not enabled"
  | .pipeFull => "Event pipe full"
  | .pipeClosed => "Event pipe closed"
  | .invalidParameters cause => "Invalid parameters: " ++ cause.message
  | .config cause => "Configuration error: " ++ cause.message
  | .host cause => "JNI error: " ++ cause.message
  | .internal text => "Internal error: " ++ text

/-- The class of the exception that a Java host raises for a fault. -/
def exceptionClass : Fault → String
  | .notEnabled _ | .pipeClosed => "java/lang/IllegalStateException"
  | .unknownHandle _ | .duplicateHandle _ | .invalidDependency _ | .invalidPeriod _
  | .invalidParameters _ | .config _ => "java/lang/IllegalArgumentException"
  | .pipeFull => "java/io/IOException"
  | .host _ | .internal _ => "java/lang/RuntimeException"

end Fault

end FusionSensors
