/-
# FusionSensors.Json.Reader -- reading from the front of a text

A reader takes characters off the front of a text and answers a value with
what remains, or the first defect. All repetition goes through
`Reader.iterate`, whose every round takes at least one character, so a text of
`n` characters never needs more than `n + 1` rounds.
-/
import FusionSensors.Json.Defect

namespace FusionSensors.Json

set_option autoImplicit false

/-- Reads a value off the front of a text. -/
abbrev Reader (α : Type) : Type := List Char → Except Defect (α × List Char)

namespace Reader

variable {α β : Type}

/-! ## Sequencing -/

/-- Answers a value and takes nothing. -/
@[inline] def done (a : α) : Reader α := fun text => .ok (a, text)

/-- Reads with `first`, then with the reader made from its value. -/
@[inline] def andThen (first : Reader α) (next : α → Reader β) : Reader β := fun text =>
  match first text with
  | .ok (a, rest) => next a rest
  | .error defect => .error defect

@[always_inline] instance : Monad Reader where
  pure := done
  bind := andThen

/-- Stops at a defect. -/
@[inline] def stop (defect : Defect) : Reader α := fun _ => .error defect

@[simp] theorem pure_apply (a : α) (text : List Char) : (pure a : Reader α) text = .ok (a, text) :=
  rfl

theorem bind_apply (first : Reader α) (next : α → Reader β) (text : List Char) :
    (first >>= next) text =
      match first text with
      | .ok (a, rest) => next a rest
      | .error defect => .error defect := rfl

@[simp] theorem stop_apply (defect : Defect) (text : List Char) :
    (stop defect : Reader α) text = .error defect := rfl

instance : LawfulMonad Reader := LawfulMonad.mk' Reader
  (by
    intro α first
    funext text
    change (first >>= fun a => pure a) text = first text
    rw [bind_apply]
    split <;> simp_all)
  (by intro α β a next; rfl)
  (by
    intro α β γ first next last
    funext text
    simp only [bind_apply]
    cases first text <;> rfl)

/-! ## Characters -/

/-- The white space between tokens. -/
def isSpace (c : Char) : Bool := c = ' ' || c = '\n' || c = '\t' || c = '\r'

/-- The next character, left in place. -/
def peek : Reader (Option Char) := fun text => .ok (text.head?, text)

/-- The next character after white space; the white space is taken, the
character left in place. -/
def look : Reader (Option Char) := fun text =>
  let rest := text.dropWhile isSpace
  .ok (rest.head?, rest)

/-- Takes the next character. -/
def next : Reader (Option Char) := fun text => .ok (text.head?, text.tail)

/-- Takes one character that has been looked at. -/
def advance : Reader Unit := fun text => .ok ((), text.tail)

/-- Takes the longest run of characters of one class. -/
def run (accepts : Char → Bool) : Reader (List Char) := fun text =>
  .ok (text.takeWhile accepts, text.dropWhile accepts)

/-- Takes the rest of a word, letter by letter. -/
def word : List Char → Reader Unit
  | [], text => .ok ((), text)
  | _ :: _, [] => .error .endInValue
  | letter :: letters, c :: text => if c = letter then word letters text else .error .noWord

/-! ## Repetition -/

/-- Runs `step` for at most a number of rounds. -/
def rounds (step : β → Reader (β ⊕ α)) : Nat → β → Reader α
  | 0, _ => stop .endInValue
  | more + 1, state => do
    match ← step state with
    | .inl state => rounds step more state
    | .inr a => pure a

/-- Runs `step` until it answers a final value. A step that goes on has taken a
character, so the rounds allowed here are never used up. -/
def iterate (step : β → Reader (β ⊕ α)) (start : β) : Reader α := fun text =>
  rounds step (text.length + 1) start text

/-- Reads a whole text: white space may follow the value, and nothing else. -/
def whole (reader : Reader α) (text : String) : Except Defect α :=
  match reader text.toList with
  | .ok (a, rest) => if (rest.dropWhile isSpace).isEmpty then .ok a else .error .trailingText
  | .error defect => .error defect

end Reader

end FusionSensors.Json
