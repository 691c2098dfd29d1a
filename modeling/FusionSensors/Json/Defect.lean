/-
# FusionSensors.Json.Defect -- what can be wrong with a JSON text

A reader stops at the first defect, from left to right. A defect is a cause;
its wording is `Defect.message`.
-/
import FusionSensors.Decimal.Layout
import FusionSensors.Text.Quoted

namespace FusionSensors.Json

set_option autoImplicit false

/-- A value that stands where another kind of value belongs. -/
inductive Found where
  | null
  | boolean (value : Bool)
  | integer (value : Int)
  | float (value : Double)
  | text (value : String)
  | list
  | record
  deriving DecidableEq, Repr

/-- What stops a reader. -/
inductive Defect where
  /-- the text ends where a value should go on or begin -/
  | endInValue
  | endInList
  | endInRecord
  | endInText
  | noValue
  | noWord
  | noColon
  | noListEnd
  | noRecordEnd
  | keyNotText
  | trailingComma
  /-- something stands after the value -/
  | trailingText
  | badNumber
  | numberTooLarge
  | badEscape
  | rawControl
  | loneSurrogate
  | surrogateCut
  /-- a value of another kind than the reader expects -/
  | wrongKind (found : Found) (expected : String)
  /-- an integer outside the range of its member -/
  | outOfRange (value : Int) (expected : String)
  /-- a list that is too short -/
  | wrongLength (given : Nat) (expected : String)
  | unknownVariant (name : String) (known : List String)
  | repeatedMember (name : String)
  | missingMember (name : String)
  deriving DecidableEq, Repr

/-- How a message names a value. -/
def Found.phrase : Found → String
  | .null => "null"
  | .boolean value => "boolean `" ++ (if value then "true" else "false") ++ "`"
  | .integer value => "integer `" ++ String.ofList (Decimal.integer value) ++ "`"
  | .float value => "floating point `" ++ String.ofList value.digits ++ "`"
  | .text value => "string " ++ Text.quoted value
  | .list => "sequence"
  | .record => "map"

/-- How a message lists the variants that are known. -/
def knownVariants : List String → String
  | [one] => "`" ++ one ++ "`"
  | [one, two] => "`" ++ one ++ "` or `" ++ two ++ "`"
  | many => "one of " ++ String.intercalate ", " (many.map fun name => "`" ++ name ++ "`")

/-- The wording of a defect. -/
def Defect.message : Defect → String
  | .endInValue => "EOF while parsing a value"
  | .endInList => "EOF while parsing a list"
  | .endInRecord => "EOF while parsing an object"
  | .endInText => "EOF while parsing a string"
  | .noValue => "expected value"
  | .noWord => "expected ident"
  | .noColon => "expected `:`"
  | .noListEnd => "expected `,` or `]`"
  | .noRecordEnd => "expected `,` or `\x7d`"
  | .keyNotText => "key must be a string"
  | .trailingComma => "trailing comma"
  | .trailingText => "trailing characters"
  | .badNumber => "invalid number"
  | .numberTooLarge => "number out of range"
  | .badEscape => "invalid escape"
  | .rawControl => "control character (\\u0000-\\u001F) found while parsing a string"
  | .loneSurrogate => "lone leading surrogate in hex escape"
  | .surrogateCut => "unexpected end of hex escape"
  | .wrongKind found expected => "invalid type: " ++ found.phrase ++ ", expected " ++ expected
  | .outOfRange value expected =>
    "invalid value: integer `" ++ String.ofList (Decimal.integer value) ++ "`, expected " ++ expected
  | .wrongLength given expected =>
    "invalid length " ++ String.ofList (Decimal.natural given) ++ ", expected " ++ expected
  | .unknownVariant name known => "unknown variant `" ++ name ++ "`, expected " ++ knownVariants known
  | .repeatedMember name => "duplicate field `" ++ name ++ "`"
  | .missingMember name => "missing field `" ++ name ++ "`"

end FusionSensors.Json
