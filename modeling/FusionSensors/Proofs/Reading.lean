/-
# FusionSensors.Proofs.Reading -- what a reader makes of a value in its place

A value stands in a text between white space and whatever comes after it.
`Reads` says that a reader makes one outcome of a text wherever it stands, as
long as nothing follows that a number could go on with (`Apart`). A reader that
begins with a look does not see the white space (`Padded`), and one that reads
on to the end of a number reads as much in front of anything else (`Extends`).

`Yields` is the other way round: what holds of every value that a reader
answers, whatever the text.
-/
import FusionSensors.Json.Reader
import Mathlib.Data.List.TakeWhile

namespace FusionSensors.Json.Reader

set_option autoImplicit false

variable {α β γ : Type}

/-! ## White space -/

/-- Nothing but white space. -/
def Blank (space : List Char) : Prop := ∀ c ∈ space, isSpace c = true

theorem Blank.nil : Blank [] := nofun

theorem look_blank {space : List Char} (blank : Blank space) (text : List Char) :
    look (space ++ text) = look text := by
  rw [look, look, List.dropWhile_append_of_pos blank]

theorem look_cons {c : Char} (visible : isSpace c = false) (text : List Char) :
    look (c :: text) = .ok (some c, c :: text) := by
  rw [look, List.dropWhile_cons_of_neg (by simp [visible])]
  rfl

/-- A reader that does not see the white space before a value. -/
def Padded (reader : Reader α) : Prop :=
  ∀ space text, Blank space → reader (space ++ text) = reader text

theorem padded_look (next : Option Char → Reader α) : Padded (look >>= next) := by
  intro space text blank
  rw [bind_apply, bind_apply, look_blank blank]

theorem Padded.bind {first : Reader α} (padded : Padded first) (next : α → Reader β) :
    Padded (first >>= next) := by
  intro space text blank
  rw [bind_apply, bind_apply, padded space text blank]

/-- A run that takes the whole text. -/
theorem run_all {accepts : Char → Bool} {text : List Char} (all : ∀ c ∈ text, accepts c = true) :
    run accepts text = .ok (text, []) := by
  rw [run, List.takeWhile_eq_self_iff.2 all, List.dropWhile_eq_nil_iff.2 all]

/-! ## What comes after a value -/

/-- A character that a number may go on with after a digit. -/
def goesOn (c : Char) : Bool := c.isDigit || c == '.' || c == 'e' || c == 'E'

/-- What does not go on with a number. -/
def Apart (rest : List Char) : Prop := ∀ c ∈ rest.head?, goesOn c = false

theorem Apart.nil : Apart [] := nofun

theorem Apart.cons {c : Char} (ends : goesOn c = false) (rest : List Char) : Apart (c :: rest) := by
  rintro _ ⟨⟩
  exact ends

theorem isSpace_isDigit {c : Char} (digit : c.isDigit = true) : isSpace c = false := by
  cases space : isSpace c with
  | false => rfl
  | true =>
      simp only [isSpace, Bool.or_eq_true, decide_eq_true_eq] at space
      rcases space with ((rfl | rfl) | rfl) | rfl <;> exact absurd digit (by decide)

theorem goesOn_space {c : Char} (space : isSpace c = true) : goesOn c = false := by
  simp only [isSpace, Bool.or_eq_true, decide_eq_true_eq] at space
  rcases space with ((rfl | rfl) | rfl) | rfl <;> decide

theorem Apart.blank {space : List Char} (blank : Blank space) {rest : List Char} (apart : Apart rest) :
    Apart (space ++ rest) := by
  cases space with
  | nil => exact apart
  | cons c more => exact .cons (goesOn_space (blank c List.mem_cons_self)) _

theorem Apart.head?_ne {rest : List Char} (apart : Apart rest) {c : Char} (goes : goesOn c = true) :
    rest.head? ≠ some c :=
  fun first => Bool.false_ne_true ((apart c first).symm.trans goes)

theorem Apart.not_digit {rest : List Char} (apart : Apart rest) {c : Char} (first : c ∈ rest.head?) :
    c.isDigit = false := by
  have ends := apart c first
  simp only [goesOn, Bool.or_eq_false_iff] at ends
  exact ends.1.1.1

/-- A reader makes one outcome of a text, wherever that stands. -/
def Reads (reader : Reader α) (text : List Char) (outcome : Except Defect α) : Prop :=
  ∀ space rest, Blank space → Apart rest →
    reader (space ++ (text ++ rest)) = outcome.map (·, rest)

theorem Reads.map {reader : Reader α} {text : List Char} {outcome : Except Defect α}
    (reads : Reads reader text outcome) (f : α → β) :
    Reads (f <$> reader) text (outcome.map f) := by
  intro space rest blank apart
  rw [map_eq_pure_bind, bind_apply, reads space rest blank apart]
  cases outcome <;> rfl

/-! ## Reading on to the end -/

/-- What a reader takes off a text it takes as well off a longer one. -/
def Extends (reader : Reader α) : Prop :=
  ∀ text a left rest, Apart rest → reader text = .ok (a, left) →
    reader (text ++ rest) = .ok (a, left ++ rest)

/-- The same for texts that are not empty. -/
def ExtendsCons (reader : Reader α) : Prop :=
  ∀ c text a left rest, Apart rest → reader (c :: text) = .ok (a, left) →
    reader (c :: (text ++ rest)) = .ok (a, left ++ rest)

namespace Extends

theorem cons {reader : Reader α} (longer : Extends reader) : ExtendsCons reader :=
  fun c text => longer (c :: text)

theorem pure (a : α) : Extends (pure a : Reader α) := by
  rintro text _ _ rest - ⟨⟩
  rfl

theorem stop (defect : Defect) : Extends (stop defect : Reader α) := by
  rintro text a left rest - ⟨⟩

theorem bind {first : Reader α} {next : α → Reader β} (start : Extends first)
    (more : ∀ a, Extends (next a)) : Extends (first >>= next) := by
  intro text b left rest apart read
  rw [bind_apply] at read ⊢
  cases began : first text with
  | error defect =>
      rw [began] at read
      cases read
  | ok pair =>
      obtain ⟨a, middle⟩ := pair
      rw [began] at read
      rw [start text a middle rest apart began]
      exact more a middle b left rest apart read

/-- A run of digits ends where nothing goes on with a number. -/
theorem run : Extends (run Char.isDigit) := by
  rintro text _ _ rest apart ⟨⟩
  have ends : rest.takeWhile Char.isDigit = [] ∧ rest.dropWhile Char.isDigit = rest := by
    cases rest with
    | nil => exact ⟨rfl, rfl⟩
    | cons c more => simp [apart.not_digit (c := c) rfl]
  rw [Reader.run]
  congr 2
  · induction text with
    | nil => exact ends.1
    | cons c more ih => by_cases digit : c.isDigit <;> simp [digit, ih]
  · induction text with
    | nil => exact ends.2
    | cons c more ih => by_cases digit : c.isDigit <;> simp [digit, ih]

/-- A reader that begins with a look at what comes after white space. -/
theorem look_bind {next : Option Char → Reader β} (ended : ∀ pair, next none [] ≠ .ok pair)
    (more : ∀ c, ExtendsCons (next (some c))) : Extends (look >>= next) := by
  intro text a left rest apart read
  -- the induction only takes the white space off; `next` begins at the first character after it
  induction text with
  | nil => exact absurd read (ended _)
  | cons c text ih =>
      cases space : isSpace c with
      | true =>
          have blank : Blank [c] := by simpa [Blank] using space
          rw [List.cons_append, ← List.singleton_append, padded_look next [c] _ blank]
          exact ih ((padded_look next [c] text blank).symm.trans read)
      | false =>
          rw [bind_apply, look_cons space] at read
          rw [bind_apply, List.cons_append, look_cons space]
          exact more c c text a left rest apart read

/-- A reader that needs another character. -/
theorem next_bind {next : Option Char → Reader β} (ended : ∀ pair, next none [] ≠ .ok pair)
    (more : ∀ c, Extends (next (some c))) : Extends (Reader.next >>= next) := by
  intro text a left rest apart read
  cases text with
  | nil => exact absurd read (ended _)
  | cons c text => exact more c text a left rest apart read

/-- A reader that looks whether a number goes on. -/
theorem peek_bind {next : Option Char → Reader β} (more : ∀ c, ExtendsCons (next (some c)))
    (ended : ∀ a left rest, Apart rest → next none [] = .ok (a, left) →
      next rest.head? rest = .ok (a, left ++ rest)) : Extends (peek >>= next) := by
  intro text a left rest apart read
  cases text with
  | nil => exact ended a left rest apart read
  | cons c text => exact more c c text a left rest apart read

end Extends

namespace ExtendsCons

theorem advance_bind {next : Unit → Reader β} (more : Extends (next ())) :
    ExtendsCons (advance >>= next) :=
  fun _ text a left rest apart read => more text a left rest apart read

end ExtendsCons

/-- A reader that reads a text to the end reads it in its place. -/
theorem Extends.reads {reader : Reader α} (padded : Padded reader) (longer : Extends reader)
    {text : List Char} {a : α} (read : reader text = .ok (a, [])) : Reads reader text (.ok a) := by
  intro space rest blank apart
  rw [padded space _ blank]
  exact longer text a [] rest apart read

/-! ## Repetition -/

section Rounds

variable {step : β → Reader (β ⊕ α)} {state : β} {text left : List Char}

theorem rounds_inl {following : β} (goes : step state text = .ok (.inl following, left)) (more : Nat) :
    rounds step (more + 1) state text = rounds step more following left := by
  rw [rounds, bind_apply, goes]

theorem rounds_inr {a : α} (ends : step state text = .ok (.inr a, left)) (more : Nat) :
    rounds step (more + 1) state text = .ok (a, left) := by
  rw [rounds, bind_apply, ends]
  rfl

theorem rounds_error {defect : Defect} (fails : step state text = .error defect) (more : Nat) :
    rounds step (more + 1) state text = .error defect := by
  rw [rounds, bind_apply, fails]

/-- Where there are rounds enough, one round leaves enough for what comes after it. -/
theorem rounds_next {following : β} (goes : step state text = .ok (.inl following, left))
    {needed more : Nat} (enough : needed < more) :
    ∃ fewer, needed ≤ fewer ∧ rounds step more state text = rounds step fewer following left := by
  obtain ⟨fewer, rfl⟩ := Nat.exists_eq_add_one_of_ne_zero (Nat.ne_zero_of_lt enough)
  exact ⟨fewer, Nat.le_of_lt_succ enough, rounds_inl goes fewer⟩

end Rounds

/-! ## What a reader answers -/

/-- What holds of every value that a reader answers. -/
def Yields (reader : Reader α) (P : α → Prop) : Prop :=
  ∀ text a rest, reader text = .ok (a, rest) → P a

namespace Yields

theorem any (reader : Reader α) : Yields reader fun _ => True := fun _ _ _ _ => trivial

theorem pure {a : α} {P : α → Prop} (holds : P a) : Yields (pure a : Reader α) P := by
  rintro text _ _ ⟨⟩
  exact holds

theorem stop (defect : Defect) (P : α → Prop) : Yields (stop defect : Reader α) P := nofun

theorem bind {first : Reader α} {next : α → Reader β} {P : α → Prop} {Q : β → Prop}
    (start : Yields first P) (more : ∀ a, P a → Yields (next a) Q) : Yields (first >>= next) Q := by
  intro text b rest read
  rw [bind_apply] at read
  cases began : first text with
  | error defect =>
      rw [began] at read
      cases read
  | ok pair =>
      rw [began] at read
      exact more pair.1 (start text pair.1 pair.2 began) pair.2 b rest read

/-- A value is asked for, and any will do. -/
theorem after {first : Reader α} {next : α → Reader β} {Q : β → Prop}
    (more : ∀ a, Yields (next a) Q) : Yields (first >>= next) Q :=
  bind (any first) fun a _ => more a

/-- What each round keeps is kept to the end. -/
theorem iterate {step : β → Reader (β ⊕ α)} {I : β → Prop} {P : α → Prop}
    (kept : ∀ state, I state → Yields (step state) (Sum.elim I P)) {start : β} (begun : I start) :
    Yields (iterate step start) P := by
  have rounds (more : Nat) (state : β) (holds : I state) : Yields (rounds step more state) P := by
    induction more generalizing state with
    | zero => exact stop _ P
    | succ more ih =>
        refine bind (kept state holds) fun result result_holds => ?_
        cases result with
        | inl state => exact ih state result_holds
        | inr a => exact pure result_holds
  exact fun text => rounds (text.length + 1) start begun text

end Yields

end FusionSensors.Json.Reader
