/-
# FusionSensors.Replay.Arguments -- the command line of a replay

Every option has a value, given as `--name=value` or as the next argument,
which must then not begin with a dash unless it is a single one. No option may
be repeated, a recording and synthetic samples exclude each other, and nothing
but options is accepted.
-/
namespace FusionSensors.Replay

set_option autoImplicit false

/-- What a replay is asked to do. -/
structure Arguments where
  /-- path of a recording -/
  input : Option String := none
  /-- number of synthetic samples -/
  synthetic : Option Nat := none
  /-- rate of synthetic samples, in hertz -/
  rate : Nat := 100
  /-- path of a configuration -/
  config : Option String := none
  /-- period requested of every sensor -/
  delay : Option Int := none
  deriving DecidableEq, Repr

namespace Arguments

/-- An option of the command line. -/
inductive Flag where
  | input
  | synthetic
  | rate
  | config
  | delay
  deriving DecidableEq, Repr

def Flag.name : Flag → String
  | .input => "input"
  | .synthetic => "synthetic"
  | .rate => "rate-hz"
  | .config => "config"
  | .delay => "delay-ns"

def Flag.all : List Flag := [.input, .synthetic, .rate, .config, .delay]

/-- The option with a name. -/
def Flag.named (name : List Char) : Option Flag :=
  Flag.all.find? fun flag => flag.name.toList == name

/-! ## From arguments to options with values -/

/-- Pairs options with the texts of their values. -/
def pairs : List (List Char) → Option (List (Flag × List Char))
  | [] => some []
  | ('-' :: '-' :: word) :: rest =>
    if word.isEmpty then if rest.isEmpty then some [] else none
    else
      match Flag.named (word.takeWhile (· ≠ '=')), word.dropWhile (· ≠ '=') with
      | none, _ => none
      | some flag, _ :: value => ((flag, value) :: ·) <$> pairs rest
      | some flag, [] =>
        match rest with
        | [] => none
        | value :: rest =>
          if value.head? = some '-' ∧ value ≠ ['-'] then none
          else ((flag, value) :: ·) <$> pairs rest
  | _ :: _ => none

/-! ## Values -/

/-- The natural number that a non-empty run of digits writes. -/
def digits? (text : List Char) : Option Nat :=
  if text.isEmpty || !text.all Char.isDigit then none
  else some (text.foldl (fun n c => 10 * n + (c.toNat - '0'.toNat)) 0)

/-- A natural number of 64 bits; a plus sign may stand before it. -/
def natural? (text : List Char) : Option Nat := do
  let n ← digits? (if text.head? = some '+' then text.tail else text)
  if n < UInt64.size then some n else none

/-- An integer of 64 bits; a sign may stand before it. -/
def integer? (text : List Char) : Option Int := do
  let n : Int ←
    match text with
    | '-' :: rest => (digits? rest).map fun n => -(n : Int)
    | '+' :: rest => (digits? rest).map Int.ofNat
    | _ => (digits? text).map Int.ofNat
  if -9223372036854775808 ≤ n ∧ n < 9223372036854775808 then some n else none

/-- A rate is an integer that fits 32 bits without a sign. -/
def rate? (text : List Char) : Option Nat := do
  let n ← integer? text
  if 0 ≤ n ∧ n < UInt32.size then some n.toNat else none

/-- A path is not empty. -/
def path? (text : List Char) : Option String :=
  if text.isEmpty then none else some (String.ofList text)

/-- Sets the value of an option. -/
def set (arguments : Arguments) : Flag × List Char → Option Arguments
  | (.input, text) => return { arguments with input := some (← path? text) }
  | (.synthetic, text) => return { arguments with synthetic := some (← natural? text) }
  | (.rate, text) => return { arguments with rate := ← rate? text }
  | (.config, text) => return { arguments with config := some (← path? text) }
  | (.delay, text) => return { arguments with delay := some (← integer? text) }

/-- Reads a command line; none if it is not to be understood. -/
def parse (words : List String) : Option Arguments := do
  let given ← pairs (words.map String.toList)
  let flags := given.map Prod.fst
  if ¬flags.Nodup ∨ (Flag.input ∈ flags ∧ Flag.synthetic ∈ flags) then none
  else given.foldlM set {}

end Arguments

end FusionSensors.Replay
