/-
# FusionSensors.Json.Skip -- values that nobody asks for

The value of an unknown member is skipped: it must be well formed, but its
numbers may be out of any range and it may nest to any depth. Depth is held as
a list of open brackets, innermost first, and not as recursion.
-/
import FusionSensors.Json.Escape

namespace FusionSensors.Json.Skip

set_option autoImplicit false

/-- An open bracket. -/
inductive Bracket where
  | list
  | record
  deriving DecidableEq, Repr

namespace Bracket

def closer : Bracket → Char
  | .list => ']'
  | .record => '\x7d'

/-- The defect of a text that ends inside. -/
def unfinished : Bracket → Defect
  | .list => .endInList
  | .record => .endInRecord

/-- The defect of a text that goes on with neither a comma nor the end. -/
def unclosed : Bracket → Defect
  | .list => .noListEnd
  | .record => .noRecordEnd

end Bracket

/-! ## Numbers -/

/-- From the exponent mark on. -/
def exponentPart : Reader Unit := do
  Reader.advance
  let sign ← Reader.peek
  if sign = some '+' || sign = some '-' then Reader.advance
  if (← Reader.run Char.isDigit).isEmpty then Reader.stop .badNumber else pure ()

/-- What follows the integer digits, or the digits after the point. -/
def exponent? : Reader Unit := do
  let following ← Reader.peek
  if following = some 'e' || following = some 'E' then exponentPart else pure ()

/-- A number after its sign. -/
def number : Reader Unit := do
  let digits ← Reader.run Char.isDigit
  match digits with
  | [] => Reader.stop .badNumber
  | '0' :: _ :: _ => Reader.stop .badNumber
  | _ =>
    if (← Reader.peek) = some '.' then
      Reader.advance
      if (← Reader.run Char.isDigit).isEmpty then Reader.stop .badNumber else exponent?
    else exponent?

/-! ## Brackets -/

/-- Takes what stands before a colon and the colon itself. -/
def colon : Reader Unit := do
  match ← Reader.look with
  | none => Reader.stop .endInRecord
  | some ':' => Reader.advance
  | some _ => Reader.stop .noColon

/-- Gets to the next value inside a bracket: a record has a key before it. -/
def toValue : Bracket → Reader Unit
  | .list => pure ()
  | .record => do
    match ← Reader.look with
    | none => Reader.stop .endInRecord
    | some '"' => Reader.advance; Escape.skip; colon
    | some _ => Reader.stop .keyNotText

/-- Takes one value that is not a bracket, or an opening bracket. -/
def opening : Reader (Option Bracket) := do
  match ← Reader.look with
  | none => Reader.stop .endInValue
  | some 'n' => Reader.advance; Reader.word ['u', 'l', 'l']; pure none
  | some 't' => Reader.advance; Reader.word ['r', 'u', 'e']; pure none
  | some 'f' => Reader.advance; Reader.word ['a', 'l', 's', 'e']; pure none
  | some '"' => Reader.advance; Escape.skip; pure none
  | some '-' => Reader.advance; number; pure none
  | some '[' => Reader.advance; pure (some .list)
  | some '\x7b' => Reader.advance; pure (some .record)
  | some c => if c.isDigit then number; pure none else Reader.stop .noValue

/-- Takes the closing brackets that stand here and gets to the next value.
`after` tells that a value has just ended, so that a comma may follow. Answers
the brackets still open: none are left when the skipped value has ended. -/
def settle : Bool → List Bracket → Reader (List Bracket)
  | _, [] => pure []
  | after, bracket :: outer => do
    match ← Reader.look with
    | none => Reader.stop bracket.unfinished
    | some c =>
      if c = ',' ∧ after then
        Reader.advance
        toValue bracket
        pure (bracket :: outer)
      else if c = bracket.closer then
        Reader.advance
        settle true outer
      else if after then Reader.stop bracket.unclosed
      else
        toValue bracket
        pure (bracket :: outer)

/-- Skips one value. -/
def value : Reader Unit :=
  Reader.iterate (fun (brackets : List Bracket) => do
    let remaining ←
      match ← opening with
      | some bracket => settle false (bracket :: brackets)
      | none => settle true brackets
    if remaining.isEmpty then pure (.inr ()) else pure (.inl remaining)) []

end FusionSensors.Json.Skip
